/-
# Screening.Proofs.Interleaving -- many clients at one host

Any number of clients call one host at once.  What they can observe of each other goes
through the roster and through the number of the next session, so a run is a sequence
of moves, and each move is one use of either.  A start is two moves: it takes an id, and
later it opens a session under that id.  Whatever the others do in between comes
between the two.  Every other call is one move.  Who makes a move does not matter to
the host, and a start that never opens its session is a client that went away.

* `Execution.append_iff`: a run is a run up to any of its moves, and a run from there;
* `execution_start`: a start with nothing in between is the host's own `start`;
* `nodup_numbering`: the ids taken in one run differ, as long as numbers last.
-/
import Mathlib.Data.List.Nodup
import Screening.Proofs.Service

namespace Screening

set_option autoImplicit false

/-! ## Moves -/

/-- A host, and the ids that starts have taken and not yet opened a session under. -/
structure Desk where
  host : Host
  pending : List String := []

/-- What happens at a desk in one move, and what the client is told. -/
inductive Move where
  | allocated (id : String)
  | opened (id : String) (reply : Except HostError SessionView)
  | served (call : Call) (reply : Except HostError Reply)

namespace Move

/-- The id that a start takes. -/
def allocated? : Move → Option String
  | .allocated id => some id
  | _ => none

/-- The id that a start tries to open a session under. -/
def opened? : Move → Option String
  | .opened id _ => some id
  | _ => none

/-- The session that a start returns. -/
def started? : Move → Option String
  | .opened _ (.ok view) => some view.sessionId
  | _ => none

/-- The session that a completion hands off. -/
def handedOff? : Move → Option String
  | .served (.complete session) (.ok _) => some session
  | _ => none

theorem handedOff?_served_iff {call : Call} {reply : Except HostError Reply} {session : String} :
    (served call reply).handedOff? = some session ↔
      call = .complete session ∧ ∃ told, reply = .ok told := by
  cases call <;> cases reply <;> simp [handedOff?]

end Move

/-- The ids taken in these moves. -/
def allocatedIds (trace : List Move) : List String := trace.filterMap Move.allocated?

/-- The ids that sessions were to be opened under. -/
def openedIds (trace : List Move) : List String := trace.filterMap Move.opened?

/-- The sessions that starts returned. -/
def startedIds (trace : List Move) : List String := trace.filterMap Move.started?

/-- The sessions that completions handed off, each as often as that happened. -/
def handedOffIds (trace : List Move) : List String := trace.filterMap Move.handedOff?

theorem allocatedIds_append (before after : List Move) :
    allocatedIds (before ++ after) = allocatedIds before ++ allocatedIds after :=
  List.filterMap_append

@[simp] theorem allocatedIds_concat (trace : List Move) (move : Move) :
    allocatedIds (trace ++ [move]) = allocatedIds trace ++ move.allocated?.toList := by
  cases taken : move.allocated? <;> simp [allocatedIds, taken]

@[simp] theorem openedIds_concat (trace : List Move) (move : Move) :
    openedIds (trace ++ [move]) = openedIds trace ++ move.opened?.toList := by
  cases opened : move.opened? <;> simp [openedIds, opened]

@[simp] theorem handedOffIds_concat (trace : List Move) (move : Move) :
    handedOffIds (trace ++ [move]) = handedOffIds trace ++ move.handedOff?.toList := by
  cases passed : move.handedOff? <;> simp [handedOffIds, passed]

/-- One move at a desk. -/
inductive Step (desk : Desk) : Move → Desk → Prop where
  | allocate :
      Step desk (.allocated desk.host.allocate.1)
        { host := desk.host.allocate.2, pending := desk.host.allocate.1 :: desk.pending }
  | openSession {id : String} (waiting : id ∈ desk.pending) :
      Step desk (.opened id (desk.host.openSession id).1)
        { host := (desk.host.openSession id).2, pending := desk.pending.erase id }
  | serve {call : Call} (other : call ≠ .start) :
      Step desk (.served call (desk.host.serve call).1)
        { desk with host := (desk.host.serve call).2 }

/-- A run from one desk to another, with its moves in order. -/
inductive Execution (first : Desk) : List Move → Desk → Prop where
  | idle : Execution first [] first
  | step {trace : List Move} {desk next : Desk} {move : Move}
      (ran : Execution first trace desk) (moved : Step desk move next) :
      Execution first (trace ++ [move]) next

namespace Execution

theorem nil_iff {first last : Desk} : Execution first [] last ↔ first = last := by
  constructor
  · intro ran
    generalize shape : ([] : List Move) = trace at ran
    cases ran with
    | idle => rfl
    | step => simp at shape
  · rintro rfl
    exact .idle

theorem singleton_iff {first last : Desk} {move : Move} :
    Execution first [move] last ↔ Step first move last := by
  constructor
  · intro ran
    generalize shape : [move] = trace at ran
    cases ran with
    | idle => simp at shape
    | step ran moved =>
        rw [← List.nil_append [move]] at shape
        obtain ⟨empty, same⟩ := List.append_inj' shape rfl
        subst empty
        rw [List.singleton_inj] at same
        rw [same, nil_iff.1 ran]
        exact moved
  · intro moved
    exact Execution.step .idle moved

/-- Two runs, the second from where the first ends, are one run. -/
theorem append {first middle last : Desk} {before after : List Move}
    (ran : Execution first before middle) (onward : Execution middle after last) :
    Execution first (before ++ after) last := by
  induction onward with
  | idle =>
      rw [List.append_nil]
      exact ran
  | step _ moved joined =>
      rw [← List.append_assoc]
      exact .step joined moved

/-- A run can be cut anywhere. -/
theorem split {first last : Desk} {trace : List Move} (ran : Execution first trace last) :
    ∀ before after, trace = before ++ after →
      ∃ middle, Execution first before middle ∧ Execution middle after last := by
  induction ran with
  | idle =>
      intro before after cut
      obtain ⟨rfl, rfl⟩ := List.append_eq_nil_iff.1 cut.symm
      exact ⟨first, .idle, .idle⟩
  | @step trace desk next move ran moved earlier =>
      intro before after cut
      rcases List.eq_nil_or_concat after with rfl | ⟨rest, final, rfl⟩
      · rw [List.append_nil] at cut
        rw [← cut]
        exact ⟨next, .step ran moved, .idle⟩
      · rw [List.concat_eq_append, ← List.append_assoc] at cut
        obtain ⟨shorter, same⟩ := List.append_inj' cut rfl
        obtain ⟨middle, here, onward⟩ := earlier before rest shorter
        rw [List.singleton_inj] at same
        rw [List.concat_eq_append, ← same]
        exact ⟨middle, here, .step onward moved⟩

/-- A run through one trace and then another is a run through both. -/
theorem append_iff {first last : Desk} {before after : List Move} :
    Execution first (before ++ after) last ↔
      ∃ middle, Execution first before middle ∧ Execution middle after last := by
  constructor
  · intro ran
    exact ran.split before after rfl
  · rintro ⟨middle, ran, onward⟩
    exact ran.append onward

/-- A run that begins with a move is that move and a run from there. -/
theorem cons_iff {first last : Desk} {move : Move} {after : List Move} :
    Execution first (move :: after) last ↔
      ∃ next, Step first move next ∧ Execution next after last := by
  rw [← List.singleton_append, append_iff]
  constructor
  · rintro ⟨next, ran, onward⟩
    exact ⟨next, singleton_iff.1 ran, onward⟩
  · rintro ⟨next, moved, onward⟩
    exact ⟨next, singleton_iff.2 moved, onward⟩

end Execution

/-- A start with nothing in between takes an id and opens a session, as `start` does. -/
theorem execution_start (host : Host) (pending : List String) :
    Execution ⟨host, pending⟩
      [.allocated host.allocate.1, .opened host.allocate.1 host.start.1]
      ⟨host.start.2, pending⟩ := by
  have taken : Step ⟨host, pending⟩ _ _ := .allocate
  have opened : Step ⟨host.allocate.2, host.allocate.1 :: pending⟩ _ _ :=
    .openSession List.mem_cons_self
  rw [List.erase_cons_head] at opened
  exact .step (Execution.singleton_iff.2 taken) opened

/-! ## Numbering -/

/-- The first ids of a host that numbers its sessions from a number on. -/
def numbering (number : UInt64) (count : Nat) : List String :=
  (List.range count).map fun place => Host.numbered (number + .ofNat place)

theorem numbering_succ (number : UInt64) (count : Nat) :
    numbering number (count + 1) =
      numbering number count ++ [Host.numbered (number + .ofNat count)] := by
  simp only [numbering, List.range_succ, List.map_append, List.map_cons, List.map_nil]

/-- No id is taken twice before the numbers come round. -/
theorem nodup_numbering (number : UInt64) {count : Nat} (few : count ≤ UInt64.size) :
    (numbering number count).Nodup := by
  rw [numbering]
  refine List.Nodup.map_on ?_ List.nodup_range
  intro first first_in second second_in same
  rw [List.mem_range] at first_in second_in
  have numbers := (UInt64.add_right_inj number).1 (Host.numbered_injective same)
  have residues := congrArg UInt64.toNat numbers
  simp only [UInt64.toNat_ofNat'] at residues
  rw [UInt64.size] at few
  omega

end Screening
