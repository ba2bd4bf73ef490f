import WindowGateway.Call.Error
import WindowGateway.Headers

/-! Hooks: the code that a user plugs into the gateway. A hook may return, fail with a text, or
panic; whatever it does, only its own call sees it. -/

namespace WindowGateway

/-- The records of a call, by key, in the order in which the keys came. -/
abbrev RecordTable := OrderedMap Json.Document

/-- What a panic carries: a text, if it is one. -/
structure Panic where
  text : Option String
  deriving DecidableEq, Repr

/-- The panic of code that sets a member of a document that cannot have one. -/
def Panic.noMember (name : String) (d : Json.Document) : Panic :=
  ⟨some s!"cannot access key \"{name}\" in JSON {d.kindName}"⟩

/-- How a hook ends when it does not return. -/
inductive HookFault
  | failed (text : String)
  | panicked (panic : Panic)
  deriving DecidableEq, Repr

/-- The text by which a call tells how its hook ended. -/
def HookFault.text : HookFault → String
  | failed text => text
  | panicked panic => "hook panicked: " ++ panic.text.getD "non-string panic payload"

/-- Folds one document into the table of the call. The table is there even if the hook fails. -/
abbrev Accumulate := Headers → Json.Document → ExceptT HookFault (StateM RecordTable) Unit

/-- What a hook did: how it ended, and the table it leaves. -/
def Accumulate.run (hook : Accumulate) (headers : Headers) (d : Json.Document)
    (table : RecordTable) : Except HookFault Unit × RecordTable :=
  (hook headers d).run.run table

/-- Turns the folded table into the one whose records are sent, and adds headers to the reply. -/
structure Finalize where
  release : RecordTable → Except HookFault RecordTable
  replyHeaders : Headers → Except Panic Headers := fun headers => .ok headers

def Finalize.identity : Finalize := { release := fun table => .ok table }

abbrev MapDocument := Headers → Json.Document → Except HookFault Json.Document

/-- What a hook returns, or the error of its stage. -/
def invoke (stage : Stage) (x : Except HookFault α) : Except CallError α :=
  x.mapError fun fault => .hook stage fault.text

@[simp] theorem invoke_eq_ok_iff {stage : Stage} {x : Except HookFault α} {a : α} :
    invoke stage x = .ok a ↔ x = .ok a := by
  cases x with
  | error fault => constructor <;> intro h <;> cases h
  | ok b =>
    have hinvoke : invoke stage (.ok b) = .ok b := rfl
    rw [hinvoke, Except.ok.injEq, Except.ok.injEq]

end WindowGateway
