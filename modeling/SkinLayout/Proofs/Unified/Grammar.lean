import SkinLayout.Proofs.Number.Characters
import SkinLayout.Proofs.Unified.Rounds
/-!
# The grammar of unified values

Which texts are unified values, said without the reader.  A length is two numbers with a comma
between them and braces around (`Unified.IsLength`); an aggregate is a row of lengths, each with a
separator behind it, in braces (`Unified.IsAggregate`).  The readers take these texts and no others,
and for every other text there is a reason in the text (`Unified.LengthFault`,
`Unified.AggregateFault`).

Both directions rest on where the cuts fall: a number has no comma and no brace in it, so a length
has its one comma and ends at the first closing brace.
-/
namespace SkinLayout

/-- If something is right or something is wrong, and a result says which, it says nothing else. -/
theorem result_iff_of_or {ε α : Type} {r : Except ε α} {P : α → Prop} {Q : ε → Prop}
    (h : (∃ a, P a) ∨ ∃ e, Q e) (hok : ∀ a, P a → r = .ok a) (herror : ∀ e, Q e → r = .error e) :
    (∀ a, r = .ok a ↔ P a) ∧ ∀ e, r = .error e ↔ Q e := by
  refine ⟨fun a => ⟨fun ha => ?_, hok a⟩, fun e => ⟨fun he => ?_, herror e⟩⟩
  · rcases h with ⟨a', h⟩ | ⟨e, h⟩
    · cases (hok a' h).symm.trans ha
      exact h
    · cases (herror e h).symm.trans ha
  · rcases h with ⟨a, h⟩ | ⟨e', h⟩
    · cases (hok a h).symm.trans he
    · cases (herror e' h).symm.trans he
      exact h

namespace Unified

variable {s a b x : List Char} {u : Unified} {us : List Unified} {f : UnifiedFault}

/-! ## Numbers -/

/-- A text that says a number, with any blanks around it. -/
def IsNumber (x : Float32) (s : List Char) : Prop := Single.ofChars? (trim s) = some x

instance (x : Float32) (s : List Char) : Decidable (IsNumber x s) :=
  inferInstanceAs (Decidable (_ = _))

/-- No number has a character in it at which a text is cut. -/
theorem IsNumber.notMem {x : Float32} (h : IsNumber x s) {c : Char} (hblank : isBlank c = false)
    (hc : isNumeralChar c = false) : c ∉ s := fun hmem =>
  Bool.false_ne_true <|
    hc.symm.trans (Single.isNumeralChar_of_ofChars? h c (mem_trim_of_mem hblank hmem))

theorem readNumber_of_isNumber {x : Float32} (h : IsNumber x s) : readNumber s = .ok x := by
  unfold readNumber
  rw [show Single.ofChars? (trim s) = some x from h]

theorem readNumber_of_none (h : Single.ofChars? (trim s) = none) :
    readNumber s = .error (.invalidNumber (String.ofList (trim s))) := by
  unfold readNumber
  rw [h]

/-! ## Lengths -/

/-- The text of a length. -/
def IsLength (u : Unified) (s : List Char) : Prop :=
  ∃ a b, IsNumber u.scale a ∧ IsNumber u.offset b ∧ s = '{' :: (a ++ ',' :: (b ++ ['}']))

/-- Why a text is not that of a length: it has no braces, or not one comma in them, or something
else than a number before or behind the comma. -/
inductive LengthFault : UnifiedFault → List Char → Prop
  | braces {s : List Char} (h : ∀ inner, s ≠ '{' :: (inner ++ ['}'])) :
    LengthFault (.missingBraces (String.ofList s)) s
  | commas {inner : List Char} (h : inner.count ',' ≠ 1) :
    LengthFault (.componentCount 2 (inner.count ',' + 1)) ('{' :: (inner ++ ['}']))
  | scale {a b : List Char} (ha : ',' ∉ a) (hb : ',' ∉ b) (h : Single.ofChars? (trim a) = none) :
    LengthFault (.invalidNumber (String.ofList (trim a))) ('{' :: (a ++ ',' :: (b ++ ['}'])))
  | offset {a b : List Char} {x : Float32} (ha : IsNumber x a) (hb : ',' ∉ b)
    (h : Single.ofChars? (trim b) = none) :
    LengthFault (.invalidNumber (String.ofList (trim b))) ('{' :: (a ++ ',' :: (b ++ ['}'])))

/-- The text between the braces is cut at its commas. -/
theorem ofChars_of_braces {inner : List Char} (h : trim s = '{' :: (inner ++ ['}'])) :
    ofChars s = match splitAt ',' inner with
      | [a, b] => readNumber a >>= fun x => readNumber b >>= fun y => .ok ⟨x, y⟩
      | pieces => .error (.componentCount 2 pieces.length) := by
  unfold ofChars
  rw [unbrace_of_braces h]
  rfl

theorem ofChars_of_comma (h : trim s = '{' :: (a ++ ',' :: (b ++ ['}']))) (ha : ',' ∉ a)
    (hb : ',' ∉ b) :
    ofChars s = readNumber a >>= fun x => readNumber b >>= fun y => .ok ⟨x, y⟩ := by
  have hinner : trim s = '{' :: (a ++ ',' :: b ++ ['}']) := by
    rw [h, List.append_assoc, List.cons_append]
  rw [ofChars_of_braces hinner, splitAt_append_cons b ha, splitAt_of_not_mem hb]

theorem ofChars_of_commas {inner : List Char} (h : trim s = '{' :: (inner ++ ['}']))
    (hcount : inner.count ',' ≠ 1) :
    ofChars s = .error (.componentCount 2 (inner.count ',' + 1)) := by
  have hlength := length_splitAt ',' inner
  rw [ofChars_of_braces h]
  split
  · rename_i hpieces
    rw [hpieces] at hlength
    exact absurd (Nat.succ.inj hlength).symm hcount
  · rw [hlength]

theorem IsLength.ofChars_eq (h : IsLength u (trim s)) : ofChars s = .ok u := by
  obtain ⟨a, b, ha, hb, htrim⟩ := h
  rw [ofChars_of_comma htrim (ha.notMem rfl rfl) (hb.notMem rfl rfl), readNumber_of_isNumber ha,
    Outcome.ok_bind, readNumber_of_isNumber hb, Outcome.ok_bind]

theorem LengthFault.ofChars_eq (h : LengthFault f (trim s)) : ofChars s = .error f := by
  generalize htrim : trim s = t at h
  cases h with
  | braces h =>
    subst htrim
    unfold ofChars
    rw [unbrace_of_unbraced h]
    rfl
  | commas h => exact ofChars_of_commas htrim h
  | scale ha hb h => rw [ofChars_of_comma htrim ha hb, readNumber_of_none h, Outcome.error_bind]
  | offset ha hb h =>
    rw [ofChars_of_comma htrim (ha.notMem rfl rfl) hb, readNumber_of_isNumber ha, Outcome.ok_bind,
      readNumber_of_none h, Outcome.error_bind]

/-- One comma parts a text. -/
theorem exists_of_count_eq_one {inner : List Char} (h : inner.count ',' = 1) :
    ∃ a b, inner = a ++ ',' :: b ∧ ',' ∉ a ∧ ',' ∉ b := by
  have hmem : ',' ∈ inner := List.count_pos_iff.1 (by omega)
  obtain ⟨a, b, rfl, ha⟩ := List.eq_append_cons_of_mem hmem
  refine ⟨a, b, rfl, ha, ?_⟩
  rw [List.count_append, List.count_eq_zero_of_not_mem ha, List.count_cons_self] at h
  exact List.count_eq_zero.1 (by omega)

/-- Every text is that of a length, or there is a reason why not. -/
theorem isLength_or_fault (s : List Char) : (∃ u, IsLength u s) ∨ ∃ f, LengthFault f s := by
  by_cases hbraces : ∃ inner, s = '{' :: (inner ++ ['}'])
  · obtain ⟨inner, rfl⟩ := hbraces
    by_cases hcount : inner.count ',' = 1
    · obtain ⟨a, b, rfl, ha, hb⟩ := exists_of_count_eq_one hcount
      rw [List.append_assoc, List.cons_append]
      cases hscale : Single.ofChars? (trim a) with
      | none => exact .inr ⟨_, .scale ha hb hscale⟩
      | some x =>
        cases hoffset : Single.ofChars? (trim b) with
        | none => exact .inr ⟨_, .offset hscale hb hoffset⟩
        | some y => exact .inl ⟨⟨x, y⟩, a, b, hscale, hoffset, rfl⟩
    · exact .inr ⟨_, .commas hcount⟩
  · exact .inr ⟨_, .braces fun inner hinner => hbraces ⟨inner, hinner⟩⟩

theorem ofChars_eq_iff (s : List Char) : (∀ u, ofChars s = .ok u ↔ IsLength u (trim s)) ∧
    ∀ f, ofChars s = .error f ↔ LengthFault f (trim s) :=
  result_iff_of_or (isLength_or_fault (trim s)) (fun _ => IsLength.ofChars_eq)
    fun _ => LengthFault.ofChars_eq

/-! ## Rows -/

/-- The text of lengths in a row, with a separator behind each. -/
inductive IsRow : List Unified → List Char → Prop
  | nil : IsRow [] []
  | cons {u : Unified} {us : List Unified} {t gap s : List Char} (ht : IsLength u t)
    (hgap : IsGap gap) (h : IsRow us s) : IsRow (u :: us) (t ++ (gap ++ s))

/-- Why a text is not that of a row: behind some lengths there is no closing brace, or no length
before it. -/
inductive RowFault : UnifiedFault → List Char → Prop
  | unclosed {s : List Char} (hne : s ≠ []) (hs : '}' ∉ s) :
    RowFault (.missingBraces (String.ofList s)) s
  | first {x : List Char} {f : UnifiedFault} (hx : '}' ∉ x) (h : LengthFault f (x ++ ['}']))
    (rest : List Char) : RowFault f (x ++ '}' :: rest)
  | later {u : Unified} {t gap s : List Char} {f : UnifiedFault} (ht : IsLength u t)
    (hgap : Separates gap s) (h : RowFault f s) : RowFault f (t ++ (gap ++ s))

/-- A length ends at its first closing brace. -/
theorem IsLength.exists_cut {t : List Char} (h : IsLength u t) :
    ∃ x, t = x ++ ['}'] ∧ '}' ∉ x ∧ trim t = t := by
  obtain ⟨a, b, ha, hb, rfl⟩ := h
  have hcut : '{' :: (a ++ ',' :: (b ++ ['}'])) = '{' :: (a ++ ',' :: b) ++ ['}'] := by simp
  have hbrace : '}' ∉ a ∧ '}' ∉ b := ⟨ha.notMem rfl rfl, hb.notMem rfl rfl⟩
  refine ⟨'{' :: (a ++ ',' :: b), hcut, by simpa using hbrace, ?_⟩
  rw [hcut]
  exact trim_of_cut (t := []) rfl (trimLeft_cons rfl _)

/-- A row begins with a brace, or is empty. -/
theorem IsRow.head (h : IsRow us s) : s = [] ∨ ∃ t, s = '{' :: t := by
  cases h with
  | nil => exact .inl rfl
  | cons ht hgap h =>
    obtain ⟨a, b, -, -, rfl⟩ := ht
    exact .inr ⟨_, rfl⟩

theorem IsRow.separates {gap : List Char} (h : IsRow us s) (hgap : IsGap gap) :
    Separates gap s := by
  refine ⟨hgap, ?_⟩
  rintro c t rfl
  rcases h.head with hnil | ⟨t', ht'⟩
  · cases hnil
  · cases ht'
    exact ⟨rfl, fun hc => absurd hc (by decide)⟩

/-- One round reads a length and skips the separator behind it. -/
theorem ofRow_append {t gap : List Char} (ht : IsLength u t) (hgap : Separates gap s) :
    ofRow (t ++ (gap ++ s)) = ofRow s >>= fun us => .ok (u :: us) := by
  obtain ⟨x, hcut, hx, htrim⟩ := ht.exists_cut
  have hread : ofChars t = .ok u := IsLength.ofChars_eq (htrim.symm ▸ ht)
  subst hcut
  rw [List.append_assoc, List.singleton_append, ofRow_cut hx, hread, Outcome.ok_bind,
    hgap.skipSeparator_eq]

theorem IsRow.ofRow_eq (h : IsRow us s) : ofRow s = .ok us := by
  induction h with
  | nil => rfl
  | cons ht hgap h ih => rw [ofRow_append ht (h.separates hgap), ih, Outcome.ok_bind]

theorem RowFault.ofRow_eq (h : RowFault f s) : trimLeft s = s → ofRow s = .error f := by
  induction h with
  | unclosed hne hs => exact fun _ => ofRow_of_notMem hne hs
  | first hx h rest =>
    intro hs
    have hread := LengthFault.ofChars_eq ((trim_of_cut rfl hs).symm ▸ h)
    rw [ofRow_cut hx, hread, Outcome.error_bind]
  | later ht hgap h ih =>
    intro _
    rw [ofRow_append ht hgap, ih hgap.trimLeft_eq, Outcome.error_bind]

/-- Round by round there is a length to be read, or a reason why there is none. -/
theorem Rounds.isRow_or_fault {n : Nat} {r : Except UnifiedFault (List Unified)}
    (h : Rounds n s r) : trimLeft s = s → (∃ us, IsRow us s) ∨ ∃ f, RowFault f s := by
  induction h with
  | done => exact fun _ => .inl ⟨[], .nil⟩
  | unclosed hne hs => exact fun _ => .inr ⟨_, .unclosed hne hs⟩
  | @refused x fault hx hread rest =>
    intro hs
    have hfault := ((ofChars_eq_iff _).2 fault).1 hread
    rw [trim_of_cut rfl hs] at hfault
    exact .inr ⟨fault, .first hx hfault rest⟩
  | @next n x rest u r hx hread h ih =>
    intro hs
    have hlength := ((ofChars_eq_iff _).1 u).1 hread
    rw [trim_of_cut rfl hs] at hlength
    obtain ⟨gap, hgap, hrest⟩ := exists_separates rest
    have hsplit : x ++ '}' :: rest = x ++ ['}'] ++ (gap ++ skipSeparator rest) := by
      rw [← hrest, List.append_assoc, List.singleton_append]
    rw [hsplit]
    rcases ih hgap.trimLeft_eq with ⟨us, hus⟩ | ⟨f, hf⟩
    · exact .inl ⟨u :: us, .cons hlength hgap.isGap hus⟩
    · exact .inr ⟨f, .later hlength hgap hf⟩

/-! ## Aggregates -/

/-- The text of an aggregate of lengths. -/
def IsAggregate (us : List Unified) (s : List Char) : Prop :=
  ∃ lead row, AllBlank lead ∧ IsRow us row ∧ s = '{' :: (lead ++ (row ++ ['}']))

/-- Why a text is not that of an aggregate: it has no braces, or something else than a row in
them. -/
inductive AggregateFault : UnifiedFault → List Char → Prop
  | braces {s : List Char} (h : ∀ inner, s ≠ '{' :: (inner ++ ['}'])) :
    AggregateFault (.missingBraces (String.ofList s)) s
  | row {f : UnifiedFault} {inner : List Char} (h : RowFault f (trim inner)) :
    AggregateFault f ('{' :: (inner ++ ['}']))

theorem IsGap.append_blank {gap g : List Char} (h : IsGap gap) (hg : AllBlank g) :
    IsGap (gap ++ g) := by
  obtain ⟨g₁, g₂, h₁, h₂, rfl | rfl⟩ := h
  · exact ⟨g₁, g₂ ++ g, h₁, h₂.append hg, .inl (List.append_assoc _ _ _)⟩
  · refine ⟨g₁, g₂ ++ g, h₁, h₂.append hg, .inr ?_⟩
    rw [List.append_assoc, List.cons_append]

theorem IsGap.trimRight {gap : List Char} (h : IsGap gap) : IsGap (trimRight gap) := by
  obtain ⟨g₁, g₂, h₁, h₂, rfl | rfl⟩ := h
  · rw [trimRight_of_blank (h₁.append h₂)]
    exact ⟨[], [], .nil, .nil, .inl rfl⟩
  · rw [trimRight_append_cons rfl, trimRight_of_blank h₂]
    exact ⟨g₁, [], h₁, .nil, .inr rfl⟩

/-- Blanks behind a row go to its last separator; behind no length there is none. -/
theorem IsRow.append_blank {g : List Char} (h : IsRow us s) (hg : AllBlank g) :
    IsRow us (s ++ g) ∨ (us = [] ∧ s = []) := by
  induction h with
  | nil => exact .inr ⟨rfl, rfl⟩
  | @cons u us t gap s ht hgap h ih =>
    refine .inl ?_
    rw [List.append_assoc, List.append_assoc]
    rcases ih with ih | ⟨rfl, rfl⟩
    · exact .cons ht hgap ih
    · have hlast := IsRow.cons ht (hgap.append_blank hg) .nil
      rwa [List.append_nil] at hlast

/-- What is trimmed off a row comes off its last separator. -/
theorem IsRow.trimRight (h : IsRow us s) : IsRow us (trimRight s) := by
  induction h with
  | nil => exact .nil
  | @cons u us t gap s ht hgap h ih =>
    obtain ⟨x, hcut, -, -⟩ := ht.exists_cut
    have hlength : SkinLayout.trimRight (t ++ (gap ++ s)) = t ++ SkinLayout.trimRight (gap ++ s) := by
      rw [hcut, List.append_assoc, List.singleton_append, trimRight_append_cons rfl,
        List.append_assoc, List.singleton_append]
    rw [hlength]
    cases h with
    | nil =>
      rw [List.append_nil]
      have hlast := IsRow.cons ht hgap.trimRight .nil
      rwa [List.append_nil] at hlast
    | cons ht' hgap' h' =>
      obtain ⟨y, rfl, -, -⟩ := ht'.exists_cut
      rw [trimRight_append_of_mem (c := '}') rfl (by simp)]
      exact .cons ht hgap ih

/-- Whether an aggregate is in the braces shows when the blanks around it are off. -/
theorem isAggregate_braces_iff {inner : List Char} :
    IsAggregate us ('{' :: (inner ++ ['}'])) ↔ IsRow us (trim inner) := by
  constructor
  · rintro ⟨lead, row, hlead, hrow, hinner⟩
    have hinner : inner = lead ++ row := by simpa [← List.append_assoc] using hinner
    have hleft : trimLeft row = row := (hrow.separates ⟨[], [], .nil, .nil, .inl rfl⟩).trimLeft_eq
    rw [hinner, trim, trimLeft_blank_append hlead, hleft]
    exact hrow.trimRight
  · intro h
    obtain ⟨g, g', hg, hg', hinner⟩ := exists_trim inner
    rcases h.append_blank hg' with hrow | ⟨rfl, hnil⟩
    · refine ⟨g, trim inner ++ g', hg, hrow, ?_⟩
      rw [← List.append_assoc, ← hinner]
    · refine ⟨g ++ g', [], hg.append hg', .nil, ?_⟩
      rw [hnil] at hinner
      rw [hinner]
      simp

theorem groups_of_braces {inner : List Char} (h : trim s = '{' :: (inner ++ ['}'])) :
    groups s = ofRow (trim inner) := by
  rw [groups_eq, unbrace_of_braces h, Outcome.ok_bind]

theorem IsAggregate.groups_eq (h : IsAggregate us (trim s)) : groups s = .ok us := by
  have hbraces : ∃ inner, trim s = '{' :: (inner ++ ['}']) := by
    obtain ⟨lead, row, -, -, htrim⟩ := h
    exact ⟨lead ++ row, by rw [htrim, List.append_assoc]⟩
  obtain ⟨inner, htrim⟩ := hbraces
  rw [htrim, isAggregate_braces_iff] at h
  rw [groups_of_braces htrim, h.ofRow_eq]

theorem AggregateFault.groups_eq (h : AggregateFault f (trim s)) : groups s = .error f := by
  generalize htrim : trim s = t at h
  cases h with
  | braces h =>
    subst htrim
    rw [Unified.groups_eq, unbrace_of_unbraced h, Outcome.error_bind]
  | row h => rw [groups_of_braces htrim, h.ofRow_eq (trimLeft_trim _)]

/-- Every text is that of an aggregate, or there is a reason why not. -/
theorem isAggregate_or_fault (s : List Char) :
    (∃ us, IsAggregate us s) ∨ ∃ f, AggregateFault f s := by
  by_cases hbraces : ∃ inner, s = '{' :: (inner ++ ['}'])
  · obtain ⟨inner, rfl⟩ := hbraces
    obtain ⟨n, -, hrounds⟩ := exists_rounds (trim inner)
    rcases hrounds.isRow_or_fault (trimLeft_trim inner) with ⟨us, h⟩ | ⟨f, h⟩
    · exact .inl ⟨us, isAggregate_braces_iff.2 h⟩
    · exact .inr ⟨f, .row h⟩
  · exact .inr ⟨_, .braces fun inner hinner => hbraces ⟨inner, hinner⟩⟩

theorem groups_eq_iff (s : List Char) : (∀ us, groups s = .ok us ↔ IsAggregate us (trim s)) ∧
    ∀ f, groups s = .error f ↔ AggregateFault f (trim s) :=
  result_iff_of_or (isAggregate_or_fault (trim s)) (fun _ => IsAggregate.groups_eq)
    fun _ => AggregateFault.groups_eq

/-! ## Points, sizes and rectangles -/

/-- A reader takes the aggregates of so many lengths: others it counts, and what is no aggregate
has its fault. -/
structure ReadsAggregates {α : Type} (count : Nat) (lengths : α → List Unified)
    (read : List Char → Except UnifiedFault α) (s : List Char) : Prop where
  ok_iff : ∀ a, read s = .ok a ↔ IsAggregate (lengths a) (trim s)
  error_iff : ∀ f, read s = .error f ↔ AggregateFault f (trim s) ∨
    ∃ us, IsAggregate us (trim s) ∧ us.length ≠ count ∧ f = .componentCount count us.length

/-- A reader that looks at the lengths of an aggregate, and at nothing else. -/
theorem ReadsAggregates.of_groups {α : Type} {count : Nat} {lengths : α → List Unified}
    {read : List Char → Except UnifiedFault α} {value : List Unified → Except UnifiedFault α}
    (hread : ∀ s, read s = groups s >>= value)
    (hok : ∀ us a, value us = .ok a ↔ us = lengths a)
    (herror : ∀ us f, value us = .error f ↔ us.length ≠ count ∧ f = .componentCount count us.length)
    (s : List Char) : ReadsAggregates count lengths read s := by
  obtain ⟨hgroups, hfault⟩ := groups_eq_iff s
  refine ⟨fun a => ?_, fun f => ?_⟩
  · rw [hread, ← hgroups]
    cases groups s with
    | error e => simp
    | ok us => simp [hok]
  · rw [hread, ← hfault]
    simp only [← hgroups]
    cases groups s with
    | error e => simp
    | ok us => simp [herror]

end Unified

open Unified (ReadsAggregates)

/-- Two lengths make one value, whatever the value is called. -/
theorem Unified.ReadsAggregates.of_pair {α : Type} {fst snd : α → Unified}
    (mk : Unified → Unified → α) (hmk : ∀ x y a, mk x y = a ↔ x = fst a ∧ y = snd a)
    {read : List Char → Except UnifiedFault α} (hread : ∀ s, read s = Unified.groups s >>= fun us =>
      match us with
      | [x, y] => .ok (mk x y)
      | us => .error (.componentCount 2 us.length)) (s : List Char) :
    ReadsAggregates 2 (fun a => [fst a, snd a]) read s := by
  apply ReadsAggregates.of_groups hread
  · intro us a
    rcases us with _ | ⟨_, _ | ⟨_, _ | _⟩⟩ <;> simp [hmk]
  · intro us f
    rcases us with _ | ⟨_, _ | ⟨_, _ | _⟩⟩ <;> simp [eq_comm]

theorem Point.readsAggregates (s : List Char) :
    ReadsAggregates 2 (fun p : Point Unified => [p.x, p.y]) Point.ofChars s :=
  Unified.ReadsAggregates.of_pair Point.mk (fun _ _ _ => by rw [Point.mk.injEq]) (fun _ => rfl) s

theorem Size.readsAggregates (s : List Char) :
    ReadsAggregates 2 (fun z : Size Unified => [z.width, z.height]) Size.ofChars s :=
  Unified.ReadsAggregates.of_pair Size.mk (fun _ _ _ => by rw [Size.mk.injEq]) (fun _ => rfl) s

theorem UnifiedRect.readsAggregates (s : List Char) :
    ReadsAggregates 4 (fun r : UnifiedRect => [r.min.x, r.min.y, r.max.x, r.max.y])
      UnifiedRect.ofChars s := by
  apply ReadsAggregates.of_groups fun _ => rfl
  · rintro us ⟨⟨left, top⟩, ⟨right, bottom⟩⟩
    rcases us with _ | ⟨_, _ | ⟨_, _ | ⟨_, _ | ⟨_, _ | _⟩⟩⟩⟩ <;>
      simp [UnifiedRect.ofEdges, and_assoc]
  · intro us f
    rcases us with _ | ⟨_, _ | ⟨_, _ | ⟨_, _ | ⟨_, _ | _⟩⟩⟩⟩ <;> simp [eq_comm]

/-- **The text of a unified value is what the grammar says, and nothing else is.**  A length, or an
aggregate of the right number of lengths, is read as the value it says; an aggregate of another
number is counted; every other text has a fault in its braces, its commas or its numbers.  However
malformed the text, there is an end to the rounds in which it is read. -/
theorem unified_text_grammar (s : List Char) :
    (∀ u, Unified.ofChars s = .ok u ↔ Unified.IsLength u (trim s)) ∧
    (∀ f, Unified.ofChars s = .error f ↔ Unified.LengthFault f (trim s)) ∧
    ReadsAggregates 2 (fun p : Point Unified => [p.x, p.y]) Point.ofChars s ∧
    ReadsAggregates 2 (fun z : Size Unified => [z.width, z.height]) Size.ofChars s ∧
    ReadsAggregates 4 (fun r : UnifiedRect => [r.min.x, r.min.y, r.max.x, r.max.y])
      UnifiedRect.ofChars s ∧
    ∀ inner, trim s = '{' :: (inner ++ ['}']) →
      ∃ n ≤ (trim inner).count '}' + 1, Unified.Rounds n (trim inner) (Unified.groups s) := by
  obtain ⟨hok, herror⟩ := Unified.ofChars_eq_iff s
  refine ⟨hok, herror, Point.readsAggregates s, Size.readsAggregates s,
    UnifiedRect.readsAggregates s, fun inner htrim => ?_⟩
  rw [Unified.groups_of_braces htrim]
  exact Unified.exists_rounds (trim inner)

/-- Two lengths, spaced out and with a comma behind the last. -/
def looseRow : List Char :=
  [' ', '{', '0', '.', '5', ',', '1', '}', ' ', ',', '{', ' ', '1', ',', '-', '4', '}', ',', ' ']

def loosePair : List Char := ' ' :: '{' :: (looseRow ++ ['}'])

theorem unified_text_grammar_loosePair :
    Unified.IsAggregate [⟨0.5, 1⟩, ⟨1, -4⟩] (trim loosePair) ∧
    Point.ofChars loosePair = .ok ⟨⟨0.5, 1⟩, ⟨1, -4⟩⟩ ∧
    UnifiedRect.ofChars loosePair = .error (.componentCount 4 2) ∧
    ∃ n ≤ 3, Unified.Rounds n (trim looseRow) (Unified.groups loosePair) := by
  obtain ⟨-, -, hpoint, -, hrect, hrounds⟩ := unified_text_grammar loosePair
  have hblank : AllBlank [' '] := by decide
  have hhalf : Unified.IsLength ⟨0.5, 1⟩ ['{', '0', '.', '5', ',', '1', '}'] :=
    ⟨['0', '.', '5'], ['1'], by decide +kernel, by decide +kernel, rfl⟩
  have hfull : Unified.IsLength ⟨1, -4⟩ ['{', ' ', '1', ',', '-', '4', '}'] :=
    ⟨[' ', '1'], ['-', '4'], by decide +kernel, by decide +kernel, rfl⟩
  have hrow := Unified.IsRow.cons hhalf ⟨[' '], [], hblank, .nil, .inr rfl⟩ <|
    .cons hfull ⟨[], [' '], .nil, hblank, .inr rfl⟩ .nil
  have hpair : Unified.IsAggregate [⟨0.5, 1⟩, ⟨1, -4⟩] (trim loosePair) :=
    ⟨[' '], _, hblank, hrow, rfl⟩
  have hcount : (trim looseRow).count '}' + 1 = 3 := by decide
  have hends := hrounds looseRow rfl
  rw [hcount] at hends
  exact ⟨hpair, (hpoint.ok_iff _).2 hpair, (hrect.error_iff _).2 (.inr ⟨_, hpair, by decide, rfl⟩),
    hends⟩

end SkinLayout
