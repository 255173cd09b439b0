import HubScript.Proofs.DepthLines
import HubScript.Proofs.Except

/-!
# The steps of making a program

How the lines of a record come about, by the header it has, and where a failure in them comes from.
-/
namespace HubScript.Hub

/-- The depth and the text of a comment. -/
def Line.placed? (line : Line) : Option (Nat × String) :=
  match line.content with
  | .comment depth text => some (depth, text)
  | _ => none

def Line.isComment (line : Line) : Bool := line.placed?.isSome

variable {α : Type}

@[simp] theorem here_ok (a : α) : here (.ok a) = .ok a := rfl

@[simp] theorem here_error (failure : Failure) :
    here (.error failure : Except Failure α) = .error ⟨failure, 0⟩ := rfl

@[simp] theorem within_ok (a : α) : within (.ok a) = .ok a := rfl

@[simp] theorem within_error (stop : Stop) :
    within (.error stop : Made α) = .error { stop with depth := stop.depth + 1 } := rfl

theorem within_eq_ok {x : Made α} {a : α} : within x = .ok a ↔ x = .ok a := by
  cases x <;> simp

theorem here_eq_ok {x : Except Failure α} {a : α} : here x = .ok a ↔ x = .ok a := by
  cases x <;> simp

theorem here_eq_error {x : Except Failure α} {stop : Stop} (h : here x = .error stop) :
    x = .error stop.failure := by
  cases x with
  | error failure =>
    obtain rfl := Except.error.inj h
    rfl
  | ok a => cases h

/-- A failure inside is the same as one level further out, but for its depth. -/
theorem within_eq_error {x : Made α} {stop : Stop} (h : within x = .error stop) :
    ∃ inner : Stop, x = .error inner ∧ inner.failure = stop.failure := by
  cases x with
  | error inner =>
    obtain rfl := Except.error.inj h
    exact ⟨inner, rfl, rfl⟩
  | ok a => cases h

/-- What follows the block of an instruction by its header. -/
def afterBlock (scene : Scene) (orelse : Suite) : Header → Made (List Line)
  | .loop _ => .ok []
  | .branch _ => elseLines scene orelse
  | .function _ => .ok [Line.separator]

theorem formLines_of_header_none (scene : Scene) {fields : Fields} (body orelse : Suite)
    (h : header? fields = .ok none) :
    formLines scene (.record fields body orelse) =
      here (statements scene.settings fields) >>= fun texts => .ok (texts.map Line.code) := by
  rw [formLines, h]
  rfl

theorem formLines_of_header_some (scene : Scene) {fields : Fields} (body orelse : Suite)
    {header : Header} (h : header? fields = .ok (some header)) :
    formLines scene (.record fields body orelse) =
      blockLines scene header.text (Fields.line? fields) (Fields.lastLine? fields) body >>=
        fun main => afterBlock scene orelse header >>= fun others => .ok (main ++ others) := by
  rw [formLines, h]
  cases header with
  | loop text =>
    simp only [here_ok, ok_bind, afterBlock, List.append_nil]
    rfl
  | branch text => rfl
  | function text => rfl

theorem formLines_of_header_error (scene : Scene) {fields : Fields} (body orelse : Suite)
    {failure : Failure} (h : header? fields = .error failure) :
    formLines scene (.record fields body orelse) = .error ⟨failure, 0⟩ := by
  rw [formLines, h]
  rfl

end HubScript.Hub
