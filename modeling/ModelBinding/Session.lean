import ModelBinding.Host
import ModelBinding.Link

/-!
# Sessions

A session is a host together with the documents that were taken out of it, so that they
can be put back as they were. Whatever a session does to its host is a sequence of
actions; the states that such a sequence reaches from an empty host are the states that
statements about hosts speak of. Only documents of new nodes are set
(`Document.Drafted`), apart from those put back; what a document would do whose nodes
were copied out of others, along with their children and what a build left in them, is
not spoken of.
-/

namespace ModelBinding

/-- A host and the documents taken out of it, in order. -/
structure Session where
  /-- The host. -/
  host : Host
  /-- The documents that were taken out. -/
  removed : List Document := []
  deriving DecidableEq

/-- What can be done in a session. Actions that read references or scopes do so on a snapshot that
is up to date. -/
inductive Action where
  /-- Set a document. -/
  | set (document : Document)
  /-- Set again, as it was, the document that was taken out at that turn. -/
  | restore (turn : Nat)
  /-- Take out the document at an address. -/
  | remove (uri : String)
  /-- Put the document at an address out of date. -/
  | touch (uri : String)
  /-- Replace the registry. -/
  | setRegistry (registry : Registry)
  /-- Bring everything up to date. -/
  | rebuild
  /-- Look up a reference and remember the answer. -/
  | resolveReference (ptr : NodePtr) (property : Property) (index : Nat)
  /-- Look up all references of the document at an address and remember the answers. -/
  | link (uri : String)
  /-- Ask for all exports of a kind and remember the answer. -/
  | consult (kind : NodeKind)
  deriving DecidableEq

/-- A document just as its author wrote it, with every node under one that is there. All its nodes
are new ones, made from drafts: none is a copy of a node of another document. -/
def Document.Drafted (d : Document) : Prop :=
  ∃ (uri : String) (drafts : List (NodeId × Draft)),
    Document.ParentsFirst drafts ∧ d = .ofDrafts uri drafts

/-- Documents are set as their authors wrote them, or put back as they were taken out. -/
def Action.Sound : Action → Prop
  | .set document => document.Drafted
  | _ => True

namespace Session

/-- The session of a new host. -/
def start (registry : Registry) : Session := { host := .new registry }

/-- The session with another host. -/
def withHost (s : Session) (h : Host) : Session := { s with host := h }

/-- The session after an action. -/
def step (s : Session) : Action → Session
  | .set document => s.withHost (s.host.setDocument document).2
  | .restore turn =>
    match s.removed[turn]? with
    | none => s
    | some d => s.withHost (s.host.setDocument d).2
  | .remove uri =>
    let taken := s.host.removeDocument uri
    { host := taken.2, removed := s.removed ++ taken.1.toList }
  | .touch uri => s.withHost (s.host.touchDocument uri).2
  | .setRegistry registry => s.withHost (s.host.setRegistry registry)
  | .rebuild => s.withHost s.host.rebuild
  | .resolveReference ptr property index =>
    let h := s.host.rebuild
    s.withHost { h with toSnapshot := (h.resolveReference ptr property index).2 }
  | .link uri =>
    let h := s.host.rebuild
    s.withHost { h with toSnapshot := (h.link uri).2 }
  | .consult kind => s.withHost { s.host with index := s.host.index.remember kind }

/-- The session after a sequence of actions. -/
def run (s : Session) (actions : List Action) : Session := actions.foldl step s

/-- The sessions that sound actions lead to from a new host. -/
def Reachable (s : Session) : Prop :=
  ∃ (registry : Registry) (actions : List Action),
    (∀ a ∈ actions, a.Sound) ∧ s = (start registry).run actions

@[simp] theorem run_nil (s : Session) : s.run [] = s := rfl

@[simp] theorem run_cons (s : Session) (a : Action) (actions : List Action) :
    s.run (a :: actions) = (s.step a).run actions := rfl

/-- Actions one after another are one sequence of actions. -/
theorem run_append (s : Session) (first second : List Action) :
    s.run (first ++ second) = (s.run first).run second :=
  List.foldl_append

/-- A new session is reachable. -/
theorem reachable_start (registry : Registry) : (start registry).Reachable :=
  ⟨registry, [], by simp, rfl⟩

/-- A sound action leads from a reachable session to a reachable one. -/
theorem Reachable.step {s : Session} (h : s.Reachable) {a : Action} (ha : a.Sound) :
    (s.step a).Reachable := by
  obtain ⟨registry, actions, hall, rfl⟩ := h
  refine ⟨registry, actions ++ [a], fun b hb => ?_, ?_⟩
  · rcases List.mem_append.1 hb with hb | hb
    · exact hall b hb
    · rw [List.mem_singleton.1 hb]
      exact ha
  · rw [run_append, run_cons, run_nil]

end Session

end ModelBinding
