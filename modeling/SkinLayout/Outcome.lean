import SkinLayout.Event
/-!
# Values that come with events

`Logged` is a value and the events on the way to it; `Outcome` may also end in an
error.  What is computed never depends on the events, and taking the result of an
outcome passes through every step of a computation (`result_bind`), so a proof
about results can forget the events at once.
-/
namespace SkinLayout

/-! ## Values -/

structure Logged (α : Type) where
  value : α
  events : List Event

namespace Logged

variable {α β : Type}

instance : Monad Logged where
  pure a := ⟨a, []⟩
  bind x f := ⟨(f x.value).value, x.events ++ (f x.value).events⟩

def report (e : Event) : Logged Unit := ⟨(), [e]⟩

@[simp] theorem value_pure (a : α) : (pure a : Logged α).value = a := rfl

@[simp] theorem events_pure (a : α) : (pure a : Logged α).events = [] := rfl

@[simp] theorem value_bind (x : Logged α) (f : α → Logged β) :
    (x >>= f).value = (f x.value).value := rfl

@[simp] theorem events_bind (x : Logged α) (f : α → Logged β) :
    (x >>= f).events = x.events ++ (f x.value).events := rfl

@[simp] theorem value_map (f : α → β) (x : Logged α) : (f <$> x).value = f x.value := rfl

@[simp] theorem events_map (f : α → β) (x : Logged α) : (f <$> x).events = x.events :=
  List.append_nil _

@[simp] theorem events_report (e : Event) : (report e).events = [e] := rfl

theorem pure_bind (a : α) (f : α → Logged β) : (pure a >>= f) = f a := rfl

theorem bind_assoc {γ : Type} (x : Logged α) (f : α → Logged β) (g : β → Logged γ) :
    (x >>= f) >>= g = x >>= fun a => f a >>= g :=
  congrArg (Logged.mk _) (List.append_assoc _ _ _)

instance : LawfulMonad Logged :=
  LawfulMonad.mk' Logged (fun x => congrArg (Logged.mk _) (List.append_nil _)) pure_bind bind_assoc

end Logged

/-! ## Results -/

structure Outcome (α : Type) where
  result : Except LayoutError α
  events : List Event

namespace Outcome

variable {α β : Type}

/-- What follows a result; an error is followed by nothing. -/
def andThen (x : Outcome α) (f : α → Outcome β) : Outcome β :=
  match x.result with
  | .error e => ⟨.error e, x.events⟩
  | .ok a => ⟨(f a).result, x.events ++ (f a).events⟩

instance : Monad Outcome where
  pure a := ⟨.ok a, []⟩
  bind := andThen

def fail (e : LayoutError) : Outcome α := ⟨.error e, []⟩

/-- A request that has no answer. -/
def refuse (cause : BadRequest) : Outcome α := fail (.invalidRequest cause)

def ofExcept (r : Except LayoutError α) : Outcome α := ⟨r, []⟩

/-- An answer, or a request that has none. -/
def ofAnswer : Except BadRequest α → Outcome α
  | .ok a => ⟨.ok a, []⟩
  | .error cause => refuse cause

def ofLogged (x : Logged α) : Outcome α := ⟨.ok x.value, x.events⟩

instance : MonadLift Logged Outcome := ⟨ofLogged⟩

def report (e : Event) : Outcome Unit := ⟨.ok (), [e]⟩

@[simp] theorem result_pure (a : α) : (pure a : Outcome α).result = .ok a := rfl

@[simp] theorem result_bind (x : Outcome α) (f : α → Outcome β) :
    (x >>= f).result = x.result >>= fun a => (f a).result := by
  show (andThen x f).result = _
  unfold andThen
  cases x.result <;> rfl

@[simp] theorem result_fail (e : LayoutError) : (fail e : Outcome α).result = .error e := rfl

@[simp] theorem result_refuse (cause : BadRequest) :
    (refuse cause : Outcome α).result = .error (.invalidRequest cause) := rfl

@[simp] theorem result_ofExcept (r : Except LayoutError α) : (ofExcept r).result = r := rfl

@[simp] theorem result_ofAnswer_ok (a : α) : (ofAnswer (.ok a)).result = .ok a := rfl

@[simp] theorem result_ofAnswer_error (cause : BadRequest) :
    (ofAnswer (.error cause) : Outcome α).result = .error (.invalidRequest cause) := rfl

@[simp] theorem result_ofLogged (x : Logged α) : (ofLogged x).result = .ok x.value := rfl

@[simp] theorem result_report (e : Event) : (report e).result = .ok () := rfl

@[simp] theorem ok_bind {ε : Type} (a : α) (f : α → Except ε β) : (Except.ok a >>= f) = f a := rfl

@[simp] theorem error_bind {ε : Type} (e : ε) (f : α → Except ε β) :
    (Except.error e >>= f) = .error e := rfl

end Outcome

end SkinLayout
