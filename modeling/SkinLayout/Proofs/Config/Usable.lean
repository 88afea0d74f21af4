import SkinLayout.Data.Config
import SkinLayout.Proofs.Number.Special
/-!
# What an accepted configuration is good for

A configuration is refused for a negative size of the display and for a font whose size is not above
zero, but not-a-number is neither.  So an accepted size is not a number or in its range, and of a
font with no point size what it tells depends on its native size alone: the metrics it was given, if
the size is finite and not near zero; zeros near zero; and nothing that is a number otherwise
(`Config.usable_of_accepted`).
-/
namespace SkinLayout

open Single (IsFinite isNearZero nan)

/-! ## What a font tells -/

namespace Font

/-- The width of a text at the native size. -/
def nativeExtent (f : Font) (s : String) : Float32 :=
  s.toList.foldl (fun x c => x + f.glyphAdvance c) (-0.0)

/-- Everything the font was given is finite. -/
structure HasMetrics (f : Font) : Prop where
  spacing : IsFinite f.nativeSpacing
  baseline : IsFinite f.nativeBaseline
  advance (c : Char) : IsFinite (f.glyphAdvance c)

/-- The font tells what it was given, and only numbers if that is finite. -/
structure KeepsMetrics (f : Font) : Prop where
  spacing : f.lineSpacing = f.nativeSpacing
  baseline : f.baseline = f.nativeBaseline
  extent (s : String) : f.textExtent s = f.nativeExtent s
  numbers (h : f.HasMetrics) : f.lineSpacing ≠ nan ∧ f.baseline ≠ nan ∧ ∀ s, f.textExtent s ≠ nan

/-- Whatever finite the font was given, it tells zeros. -/
structure LosesMetrics (f : Font) : Prop where
  spacing (h : IsFinite f.nativeSpacing) : (f.lineSpacing == 0) = true
  baseline (h : IsFinite f.nativeBaseline) : (f.baseline == 0) = true
  extent (s : String) (h : IsFinite (f.nativeExtent s)) : (f.textExtent s == 0) = true

/-- Whatever the font was given, it tells no number. -/
structure TellsNoNumber (f : Font) : Prop where
  spacing : f.lineSpacing = nan
  baseline : f.baseline = nan
  extent (s : String) : f.textExtent s = nan

theorem foldl_add_ne_nan {f : Font} (h : ∀ c, IsFinite (f.glyphAdvance c)) (cs : List Char)
    {x : Float32} (hx : x ≠ nan) : cs.foldl (fun x c => x + f.glyphAdvance c) x ≠ nan := by
  induction cs generalizing x with
  | nil => exact hx
  | cons c cs ih => exact ih (Single.add_ne_nan hx (h c))

theorem nativeExtent_ne_nan {f : Font} (h : ∀ c, IsFinite (f.glyphAdvance c)) (s : String) :
    f.nativeExtent s ≠ nan :=
  foldl_add_ne_nan h s.toList (by decide)

section Scale

variable {f : Font} (h : f.pointSize = f.nativeSize)

include h

theorem scale_eq_one (hsize : IsFinite f.nativeSize) (hnear : ¬ isNearZero f.nativeSize = true) :
    f.scale = 1 := by
  unfold scale
  rw [if_neg hnear, h]
  exact Single.div_self_eq_one hsize (Single.magnitude_ne_zero hnear)

theorem scale_eq_nan (hsize : ¬ IsFinite f.nativeSize) : f.scale = nan := by
  unfold scale
  rw [if_neg fun hnear => hsize (Single.isFinite_of_isNearZero hnear), h]
  exact Single.div_self_eq_nan hsize

theorem keepsMetrics (hsize : IsFinite f.nativeSize) (hnear : ¬ isNearZero f.nativeSize = true) :
    f.KeepsMetrics := by
  have hscale := scale_eq_one h hsize hnear
  have hspacing : f.lineSpacing = f.nativeSpacing := by
    rw [lineSpacing, hscale, Single.mul_one_eq_self]
  have hbaseline : f.baseline = f.nativeBaseline := by
    rw [baseline, hscale, Single.mul_one_eq_self]
  have hextent (s : String) : f.textExtent s = f.nativeExtent s := by
    rw [textExtent, hscale, Single.mul_one_eq_self, nativeExtent]
  refine ⟨hspacing, hbaseline, hextent, fun hm => ⟨?_, ?_, fun s => ?_⟩⟩
  · rw [hspacing]
    exact hm.spacing.ne_nan
  · rw [hbaseline]
    exact hm.baseline.ne_nan
  · rw [hextent]
    exact nativeExtent_ne_nan hm.advance s

theorem tellsNoNumber (hsize : ¬ IsFinite f.nativeSize) : f.TellsNoNumber := by
  have hscale := scale_eq_nan h hsize
  refine ⟨?_, ?_, fun s => ?_⟩
  · rw [lineSpacing, hscale, Single.mul_nan_eq_nan]
  · rw [baseline, hscale, Single.mul_nan_eq_nan]
  · rw [textExtent, hscale, Single.mul_nan_eq_nan]

end Scale

/-- Near zero the point size does not count either. -/
theorem losesMetrics {f : Font} (hnear : isNearZero f.nativeSize = true) : f.LosesMetrics := by
  have hscale : f.scale = 0 := by
    unfold scale
    rw [if_pos hnear]
  refine ⟨fun h => ?_, fun h => ?_, fun s h => ?_⟩
  · rw [lineSpacing, hscale]
    exact Single.mul_zero_beq_zero h
  · rw [baseline, hscale]
    exact Single.mul_zero_beq_zero h
  · rw [textExtent, hscale]
    exact Single.mul_zero_beq_zero h

end Font

/-! ## Which fonts there are -/

namespace Resources

theorem fonts_addImages (is : List ImageConfig) (r : Resources) :
    (is.foldl (fun r i => r.addImage i.name (.ofConfig i)) r).fonts = r.fonts := by
  induction is generalizing r with
  | nil => rfl
  | cons i is ih => exact ih _

theorem exists_of_addFonts {name : String} {font : Font} (fs : List FontConfig) (r : Resources)
    (h : (fs.foldl (fun r f => r.addFont f.name (.ofConfig f)) r).fonts.get? name = some font) :
    r.fonts.get? name = some font ∨ ∃ f ∈ fs, f.name = name ∧ font = .ofConfig f := by
  induction fs generalizing r with
  | nil => exact .inl h
  | cons f fs ih =>
    rcases ih _ h with hr | ⟨g, hg, hname⟩
    · have hr : (r.fonts.insert f.name (.ofConfig f)).get? name = some font := hr
      rw [Table.get?_insert] at hr
      split at hr
      · rename_i heq
        exact .inr ⟨f, List.mem_cons_self, heq.symm, (Option.some.inj hr).symm⟩
      · exact .inl hr
    · exact .inr ⟨g, List.mem_cons_of_mem _ hg, hname⟩

/-- A font of the resources is one of the configuration. -/
theorem exists_of_ofConfig {c : Config} {name : String} {font : Font}
    (h : (Resources.ofConfig c).fonts.get? name = some font) :
    ∃ f ∈ c.fonts, f.name = name ∧ font = .ofConfig f := by
  unfold ofConfig at h
  rw [fonts_addImages] at h
  refine (exists_of_addFonts c.fonts _ h).resolve_left fun hnone => ?_
  cases hnone

end Resources

/-! ## What is accepted -/

namespace Config

variable {read : String → Option Config} {s : String} {c : Config}

theorem ofTextWith_of_read (hread : read s = some c) (hfault : c.fault? = none) :
    ofTextWith read s = .ok c := by
  unfold ofTextWith
  simp only [hread, hfault]

theorem fault?_of_ofTextWith (h : ofTextWith read s = .ok c) : c.fault? = none := by
  unfold ofTextWith at h
  split at h
  · cases h
  split at h
  · cases h
  · rename_i hfault
    cases h
    exact hfault

theorem range_of_fault? (h : c.fault? = none) :
    ¬ c.displayWidth < 0 ∧ ¬ c.displayHeight < 0 ∧ 1 ≤ c.maxNesting ∧
      ∀ f ∈ c.fonts, ¬ f.nativeSize ≤ 0 := by
  unfold fault? at h
  split at h
  · cases h
  rename_i hdisplay
  split at h
  · cases h
  rename_i hnesting
  obtain ⟨hwidth, hheight⟩ := not_or.1 hdisplay
  refine ⟨hwidth, hheight, Nat.pos_of_ne_zero hnesting, fun f hf => ?_⟩
  have := List.find?_eq_none.1 (Option.map_eq_none_iff.1 h) f hf
  rwa [decide_eq_true_iff] at this

/-- **What is accepted is in range, or not a number**, whatever reads the text, and a font that is registered without a
point size keeps its metrics if its native size is finite and not near zero: near zero it loses
them, and from a size that is not finite it tells no number. -/
theorem usable_of_accepted (h : ofTextWith read s = .ok c) :
    (c.displayWidth = nan ∨ 0 ≤ c.displayWidth) ∧ (c.displayHeight = nan ∨ 0 ≤ c.displayHeight) ∧
      1 ≤ c.maxNesting ∧ (∀ f ∈ c.fonts, f.nativeSize = nan ∨ 0 < f.nativeSize) ∧
      ∀ name font, (Resources.ofConfig c).fonts.get? name = some font →
        ∃ f ∈ c.fonts, f.name = name ∧ font = .ofConfig f ∧ (f.pointSize = none →
          (IsFinite f.nativeSize → ¬ isNearZero f.nativeSize = true → font.KeepsMetrics) ∧
          (isNearZero f.nativeSize = true → font.LosesMetrics) ∧
          (¬ IsFinite f.nativeSize → font.TellsNoNumber)) := by
  obtain ⟨hwidth, hheight, hnesting, hfonts⟩ := range_of_fault? (fault?_of_ofTextWith h)
  refine ⟨Single.nan_or_nonneg_of_not_lt hwidth, Single.nan_or_nonneg_of_not_lt hheight, hnesting,
    fun f hf => Single.nan_or_pos_of_not_le (hfonts f hf), fun name font hfont => ?_⟩
  obtain ⟨f, hf, hname, rfl⟩ := Resources.exists_of_ofConfig hfont
  refine ⟨f, hf, hname, rfl, fun hpoint => ?_⟩
  have hnative : f.nativeSize = (Font.ofConfig f).nativeSize := rfl
  have hsize : (Font.ofConfig f).pointSize = (Font.ofConfig f).nativeSize := by
    show f.pointSize.getD f.nativeSize = f.nativeSize
    rw [hpoint, Option.getD_none]
  rw [hnative]
  exact ⟨Font.keepsMetrics hsize, Font.losesMetrics, Font.tellsNoNumber hsize⟩

/-- What is read from a text can be decided as an option. -/
theorem ofText_of_toOption (h : (ofText s).toOption = some c) :
    ofText s = .ok c := by
  cases hs : ofText s with
  | error fault => rw [hs] at h; cases h
  | ok c' => rw [hs] at h; exact congrArg Except.ok (Option.some.inj h)

/-- One font with metrics of its own, of a size that is still to be filled in. -/
def fontText (size : String) : String :=
  "[[fonts]]\nname = \"sans\"\nnative_size = " ++ size ++
    "\nline_spacing = 15\nbaseline = 12\nadvance = 6\n"

def ofFontSize (size : Float32) : Config :=
  { default with fonts := [⟨"sans", size, none, some 15, some 12, some 6⟩] }

theorem ofText_fontText_ten : ofText (fontText "10") = .ok (ofFontSize 10) :=
  ofText_of_toOption (by decide +kernel)

theorem usable_of_accepted_ten : ofText (fontText "10") = .ok (ofFontSize 10) ∧
    ∃ font, (Resources.ofConfig (ofFontSize 10)).fonts.get? "sans" = some font ∧
      font.KeepsMetrics := by
  obtain ⟨-, -, -, -, hfonts⟩ := usable_of_accepted ofText_fontText_ten
  obtain ⟨f, hf, -, -, h⟩ := hfonts "sans" _ rfl
  obtain rfl := List.mem_singleton.1 hf
  exact ⟨ofText_fontText_ten, _, rfl, (h rfl).1 (by decide) (by decide)⟩

/-- If not-a-number is read as such, a display can have no width, and of the same metrics a font of
no size or an infinite one tells no number, a tiny one zeros. -/
theorem accepted_unusable :
    (∀ read s, read s = some { default with displayWidth := nan } →
      ofTextWith read s = .ok { default with displayWidth := nan }) ∧
      (∀ read s, ∀ size ∈ [nan, Single.infinity false, 1e-8], read s = some (ofFontSize size) →
        ofTextWith read s = .ok (ofFontSize size)) ∧
      ofText "display_width = nan" = .ok { default with displayWidth := nan } ∧
      ofText (fontText "nan") = .ok (ofFontSize nan) ∧
      ofText (fontText "inf") = .ok (ofFontSize (Single.infinity false)) ∧
      ofText (fontText "1e-8") = .ok (ofFontSize 1e-8) ∧
      ¬ (0 : Float32) ≤ nan ∧ ¬ 0 < nan ∧
      ([nan, Single.infinity false, 1e-8].map fun size =>
        ((Resources.ofConfig (ofFontSize size)).fonts.get? "sans").map Font.lineSpacing) =
          [some nan, some nan, some 0] := by
  have hsizes : ∀ size ∈ [nan, Single.infinity false, 1e-8], (ofFontSize size).fault? = none := by
    decide
  refine ⟨fun read s hread => ofTextWith_of_read hread (by decide),
    fun read s size hsize hread => ofTextWith_of_read hread (hsizes size hsize), ?_, ?_, ?_, ?_,
    by decide, by decide, by decide +kernel⟩
  · exact ofText_of_toOption (by decide +kernel)
  · exact ofText_of_toOption (by decide +kernel)
  · exact ofText_of_toOption (by decide +kernel)
  · exact ofText_of_toOption (by decide +kernel)

end Config

end SkinLayout
