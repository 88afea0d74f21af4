import SkinLayout.Proofs.Dimension.Areas
import SkinLayout.Proofs.Dimension.Meaning
/-!
# What was read is in normal form

Readers take more than writers give, but what they make of it is what markup brings back: no name in
it is empty, no operator has a right operand alone, and it is not too high.  Written and read again
it agrees with itself (`reread_of_read`); the sign of a zero padding may be lost, which no comparison
sees.
-/
namespace SkinLayout

open Outcome (bind_eq_ok result_bind_eq_ok)

variable {limit depth : Nat} {e : Element}

/-! ## Leaves -/

/-- The sign of a zero is all that normal form changes of a padding. -/
theorem agree_normPadding (x : Float32) : Single.Agree (normPadding x) x := by
  unfold normPadding
  by_cases h : x = -0
  · rw [if_pos h, h]
    exact .inl (by decide)
  · rw [if_neg h]
    exact .refl x

theorem Element.normName_optional? (e : Element) (key : String) :
    normName (e.optional? key) = e.optional? key := filter_normName (e.attribute? key)

theorem FontMetric.norm_agree_of_read {m : FontMetric} (h : FontMetric.read e = .ok m) :
    m.norm.Agree m := by
  unfold FontMetric.read at h
  obtain ⟨measure, -, h⟩ := bind_eq_ok.1 h
  obtain ⟨padding, -, h⟩ := bind_eq_ok.1 h
  cases h
  exact ⟨e.normName_optional? _, e.normName_optional? _, e.normName_optional? _, rfl,
    agree_normPadding padding⟩

theorem ImageMetric.norm_eq_of_read {m : ImageMetric}
    (h : ImageMetric.readNamed e = .ok m ∨ ImageMetric.readProperty e = .ok m) : m.norm = m := by
  rcases h with h | h
  · unfold ImageMetric.readNamed at h
    obtain ⟨measure, -, h⟩ := bind_eq_ok.1 h
    obtain ⟨name, -, h⟩ := bind_eq_ok.1 h
    cases h
    rfl
  · unfold ImageMetric.readProperty at h
    obtain ⟨measure, -, h⟩ := bind_eq_ok.1 h
    obtain ⟨name, -, h⟩ := bind_eq_ok.1 h
    cases h
    unfold ImageMetric.norm ImageSource.norm
    simp only [e.normName_optional?]

theorem WidgetMetric.norm_eq_of_read {m : WidgetMetric}
    (h : (WidgetMetric.read e).result = .ok m) : m.norm = m := by
  unfold WidgetMetric.read at h
  obtain ⟨role, -, h⟩ := result_bind_eq_ok.1 h
  cases h
  unfold WidgetMetric.norm
  simp only [e.normName_optional?]

theorem PropertyMetric.norm_eq_of_read {m : PropertyMetric}
    (h : (PropertyMetric.read e).result = .ok m) : m.norm = m := by
  unfold PropertyMetric.read at h
  obtain ⟨axis, -, h⟩ := result_bind_eq_ok.1 h
  obtain ⟨name, -, h⟩ := result_bind_eq_ok.1 h
  cases h
  unfold PropertyMetric.norm
  simp only [e.normName_optional?]

namespace Node

theorem norm_agree_of_readLeaf {n : Node} (h : (readLeaf e).result = .ok n) :
    n.norm.Agree n := by
  rcases readLeaf_cases h with ⟨x, rfl⟩ | ⟨u, role, rfl⟩ | ⟨m, hm, rfl⟩ | ⟨m, hm, rfl⟩ |
    ⟨m, hm, rfl⟩ | ⟨m, hm, rfl⟩
  · exact Single.Agree.refl x
  · exact ⟨.refl u, rfl⟩
  · exact FontMetric.norm_agree_of_read hm
  · exact ImageMetric.norm_eq_of_read hm
  · exact WidgetMetric.norm_eq_of_read hm
  · exact PropertyMetric.norm_eq_of_read hm

/-! ## Trees -/

theorem norm_agree_of_isLeaf {n : Node} (hn : n.isLeaf = true)
    (h : (readAt limit depth e).result = .ok n) : n.norm.Agree n := by
  obtain ⟨-, htaken⟩ := taken_of_readAt h
  cases htaken with
  | leaf _ hread => exact norm_agree_of_readLeaf hread
  | bare _ _ => cases hn
  | unary _ _ _ => cases hn
  | binary _ _ _ _ => cases hn

/-- **A node that was read agrees with its normal form.** -/
theorem norm_agree_of_readAt (n : Node) : ∀ {limit depth e},
    (readAt limit depth e).result = .ok n → n.norm.Agree n := by
  induction n using Node.induction with
  | literal x => exact norm_agree_of_isLeaf rfl
  | unified u role => exact norm_agree_of_isLeaf rfl
  | font m => exact norm_agree_of_isLeaf rfl
  | image m => exact norm_agree_of_isLeaf rfl
  | widget m => exact norm_agree_of_isLeaf rfl
  | property m => exact norm_agree_of_isLeaf rfl
  | operation op left right ihleft ihright =>
    intro limit depth e h
    obtain ⟨-, htaken⟩ := taken_of_readAt h
    -- operands fill from the left, so none of these has a right one alone
    cases htaken with
    | leaf _ hread => exact norm_agree_of_readLeaf hread
    | bare _ _ => exact ⟨rfl, trivial, trivial⟩
    | unary _ _ hleft => exact ⟨rfl, ihleft _ rfl hleft, trivial⟩
    | binary _ _ hleft hright => exact ⟨rfl, ihleft _ rfl hleft, ihright _ rfl hright⟩

end Node

theorem Dimension.norm_agree_of_readAt {d : Dimension}
    (h : (Dimension.readAt limit depth e).result = .ok d) : d.norm.Agree d := by
  obtain ⟨-, -, -, child, -, -, hnode⟩ := readAt_cases h
  exact ⟨rfl, d.node.norm_agree_of_readAt hnode⟩

/-! ## Areas -/

namespace Area

/-- Every side is one that could have been read under the limit. -/
def Readable (limit : Nat) (a : Area) : Prop :=
  ∀ d ∈ a.dimensions, 1 + d.height ≤ limit ∧ d.norm.Agree d

theorem Readable.whole (h : 3 ≤ limit) : Readable limit whole := by
  unfold Readable dimensions
  simp only [List.forall_mem_cons]
  refine ⟨⟨h, rfl, .refl 0⟩, ⟨h, rfl, .refl 0⟩, ⟨h, rfl, .refl _, rfl⟩, ⟨h, rfl, .refl _, rfl⟩, ?_⟩
  exact List.forall_mem_nil _

theorem mem_dimensions_of_place {a a' : Area} {d : Dimension} (h : a.place d = some a') :
    ∀ d' ∈ a'.dimensions, d' = d ∨ d' ∈ a.dimensions := by
  rcases place_cases h with ⟨-, rfl⟩ | ⟨-, rfl⟩ | ⟨-, rfl⟩ | ⟨-, rfl⟩ <;>
    simp [dimensions]

/-- The sides that no child sets are those of the whole widget, and three levels high. -/
theorem readable_of_read {a : Area} (hlimit : 3 ≤ limit) (h : (read limit e).result = .ok a) :
    a.Readable limit := by
  refine read_induction (Readable.whole hlimit) (fun e a a' ha hchild => ?_) h
  rcases readChild_cases hchild with ⟨-, name, -, rfl⟩ | ⟨-, d, hd, hplace⟩
  · exact ha
  · intro d' hd'
    rcases mem_dimensions_of_place hplace d' hd' with rfl | hd'
    · exact ⟨Dimension.height_le_of_readAt hd, Dimension.norm_agree_of_readAt hd⟩
    · exact ha d' hd'

theorem Readable.norm_agree {a : Area} (h : a.Readable limit) : a.norm.Agree a where
  left := (h a.left (by simp [dimensions])).2
  top := (h a.top (by simp [dimensions])).2
  right := (h a.right (by simp [dimensions])).2
  bottom := (h a.bottom (by simp [dimensions])).2
  property := rfl

end Area

/-! ## Through markup again -/

/-- **What was read of any element reads back as itself** from its own markup, under the same limit;
an area does if the limit allows for the sides that it is filled up with. -/
theorem reread_of_read (limit : Nat) (e : Element) :
    (∀ n, (Node.read limit e).result = .ok n →
      ∃ n', Call.reread (Node.read limit) n.calls = some (.ok n') ∧ n'.Agree n) ∧
    (∀ d, (Dimension.read limit e).result = .ok d →
      ∃ d', Call.reread (Dimension.read limit) d.calls = some (.ok d') ∧ d'.Agree d) ∧
    (3 ≤ limit → ∀ a, (Area.read limit e).result = .ok a →
      ∃ a', Call.reread (Area.read limit) a.calls = some (.ok a') ∧ a'.Agree a) := by
  refine ⟨fun n hn => ⟨n.norm, ?_, n.norm_agree_of_readAt hn⟩,
    fun d hd => ⟨d.norm, ?_, d.norm_agree_of_readAt hd⟩, fun hlimit a ha => ⟨a.norm, ?_, ?_⟩⟩
  · have hheight := Node.height_le_of_readAt hn
    rw [Node.reread_of_calls, Node.reread, if_pos hheight]
  · have hheight := Dimension.height_le_of_readAt hd
    rw [Nat.zero_add] at hheight
    rw [Dimension.calls, Element.reread_eq, Dimension.result_read_toElement, if_pos hheight]
  · have hheight : a.height ≤ limit :=
      Area.height_le_iff.2 fun d hd => (Area.readable_of_read hlimit ha d hd).1
    rw [Area.calls, Element.reread_eq, Area.result_read_toElement (.of_read ha), if_pos hheight]
  · exact (Area.readable_of_read hlimit ha).norm_agree

/-- The difference of a padding of negative zero and a not-a-number. -/
def difference : Node :=
  .operation .subtract (some (.font ⟨none, none, none, .baseline, -0⟩)) (some (.literal Single.nan))

/-- It can be read from this, which has more in it than a reader looks at. -/
def differenceElement : Element :=
  ⟨"OperatorDim", [("op", " Subtract "), ("op", "Add")],
    [⟨"FontDim", [("padding", "-0"), ("widget", ""), ("type", "Baseline")], [⟨"Note", [], []⟩]⟩,
      ⟨"LiteralDim", [("value", "nan")], []⟩]⟩

def differenceDim : Element :=
  ⟨"Dim", [("type", "XPosition")], [differenceElement, differenceElement]⟩

theorem reread_of_read_difference :
    (∃ n, Call.reread (Node.read 2) difference.calls = some (.ok n) ∧ n.Agree difference) ∧
    (∃ d, Call.reread (Dimension.read 3) (Dimension.calls ⟨.leftEdge, difference⟩) = some (.ok d) ∧
      d.Agree ⟨.leftEdge, difference⟩) ∧
    ∃ a, Call.reread (Area.read 4) (Area.calls { Area.whole with
      left := ⟨.leftEdge, difference⟩, property := some "" }) = some (.ok a) ∧
      a.Agree { Area.whole with left := ⟨.leftEdge, difference⟩, property := some "" } :=
  ⟨(reread_of_read 2 differenceElement).1 _ rfl, (reread_of_read 3 differenceDim).2.1 _ rfl,
    (reread_of_read 4 ⟨"Area", [], [differenceDim, ⟨"AreaProperty", [("name", "")], []⟩]⟩).2.2
      (by decide) _ rfl⟩

end SkinLayout
