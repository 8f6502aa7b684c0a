/-
# Screening.Proofs.Handoff -- a session is handed off at most once

Clients call one host in any interleaving, from an empty roster on.  `Orderly` joins what
the host holds to what has happened: every id taken is either waiting for its session or
has been used for one, a live session has been opened and not handed off, and a session
handed off is gone.  One move keeps this as long as the numbers have not come round, and
so does a run.

* `Orderly.step`: a move keeps the order;
* `orderly_of_execution`: so does a run;
* `Orderly.reply_of_passed`: a call on a session that was handed off does not find it.
-/
import Mathlib.Data.List.Perm.Basic
import Screening.Proofs.Interleaving

namespace Screening

set_option autoImplicit false

/-- A host with no sessions, whose first one gets this number, and no client yet. -/
def Desk.fresh (catalog : Catalog) (number : UInt64) : Desk where
  host := { catalog, next := number }

/-- A call that hands a session off finds it live and leaves it gone. -/
theorem Served.passes {host after : Host} {call : Call} {reply : Except HostError Reply}
    (served : Served host call reply after) {session : String}
    (hands : (Move.served call reply).handedOff? = some session) :
    host.roster.live.get? session ≠ none ∧ after.roster.live.get? session = none := by
  obtain ⟨rfl, told, rfl⟩ := Move.handedOff?_served_iff.1 hands
  cases served with
  | changed _ happens => cases happens
  | handedOff found =>
      rw [found, Host.withLive_live, Keyed.get?_erase, if_pos rfl]
      exact ⟨Option.some_ne_none _, rfl⟩

/-- What the desk holds after these moves. -/
structure Orderly (catalog : Catalog) (number : UInt64) (trace : List Move) (desk : Desk) :
    Prop where
  reached : desk.host.roster.outage = none
  asks : desk.host.catalog = catalog
  next : desk.host.next = number + .ofNat (allocatedIds trace).length
  /-- The ids taken are the ones that are numbered in turn. -/
  taken : allocatedIds trace = numbering number (allocatedIds trace).length
  /-- An id taken waits for its session, or has been used. -/
  waiting : (desk.pending ++ openedIds trace).Perm (allocatedIds trace)
  /-- Every session that was to be opened was. -/
  began : ∀ id reply, .opened id reply ∈ trace → reply = .ok (.ofRun id (.start catalog))
  live : ∀ id, desk.host.roster.live.get? id ≠ none → id ∈ openedIds trace
  /-- A session handed off was open, and is gone. -/
  passed : ∀ id ∈ handedOffIds trace,
    id ∈ openedIds trace ∧ desk.host.roster.live.get? id = none
  once : (handedOffIds trace).Nodup

namespace Orderly

theorem fresh (catalog : Catalog) (number : UInt64) :
    Orderly catalog number [] (.fresh catalog number) where
  reached := rfl
  asks := rfl
  next := (UInt64.add_zero number).symm
  taken := rfl
  waiting := .nil
  began := by simp
  live := fun id found => absurd (Keyed.get?_empty id) found
  passed := by simp [handedOffIds]
  once := .nil

variable {catalog : Catalog} {number : UInt64} {trace : List Move} {desk : Desk}

/-! ## Ids -/

/-- No id waits twice, is used twice, or waits after it was used. -/
theorem nodup_waiting (orderly : Orderly catalog number trace desk)
    (few : (allocatedIds trace).length ≤ UInt64.size) :
    (desk.pending ++ openedIds trace).Nodup := by
  rw [orderly.waiting.nodup_iff, orderly.taken]
  exact nodup_numbering number few

/-- An id that waits for its session has not been used. -/
theorem not_opened_of_pending (orderly : Orderly catalog number trace desk)
    (few : (allocatedIds trace).length ≤ UInt64.size) {id : String} (waits : id ∈ desk.pending) :
    id ∉ openedIds trace := by
  intro used
  have apart := List.disjoint_of_nodup_append (orderly.nodup_waiting few)
  exact apart waits used

/-- There is no session yet under an id that waits for one. -/
theorem not_live_of_pending (orderly : Orderly catalog number trace desk)
    (few : (allocatedIds trace).length ≤ UInt64.size) {id : String} (waits : id ∈ desk.pending) :
    desk.host.roster.live.get? id = none := by
  by_contra found
  exact orderly.not_opened_of_pending few waits (orderly.live id found)

/-! ## One move -/

/-- Taking an id. -/
theorem allocate (orderly : Orderly catalog number trace desk) :
    Orderly catalog number (trace ++ [.allocated desk.host.allocate.1])
      { host := desk.host.allocate.2, pending := desk.host.allocate.1 :: desk.pending } := by
  have here : desk.host.allocate.1 =
      Host.numbered (number + .ofNat (allocatedIds trace).length) :=
    congrArg Host.numbered orderly.next
  refine ⟨orderly.reached, orderly.asks, ?next, ?taken, ?waiting, ?began, ?live, ?passed, ?once⟩
  case next =>
    show desk.host.next + 1 = _
    simp [Move.allocated?, orderly.next, UInt64.add_assoc]
  case taken =>
    rw [allocatedIds_concat]
    show _ ++ [desk.host.allocate.1] = numbering number (_ ++ [desk.host.allocate.1]).length
    rw [List.length_append, List.length_singleton, numbering_succ, ← orderly.taken, here]
  case waiting =>
    rw [allocatedIds_concat, openedIds_concat]
    show (desk.host.allocate.1 :: desk.pending ++ (_ ++ [])).Perm (_ ++ [desk.host.allocate.1])
    rw [List.append_nil, List.cons_append]
    exact (orderly.waiting.cons _).trans (List.perm_append_singleton _ _).symm
  case began => simpa using orderly.began
  case live => simpa [Move.opened?, Host.allocate] using orderly.live
  case passed => simpa [Move.opened?, Move.handedOff?, Host.allocate] using orderly.passed
  case once => simpa [Move.handedOff?] using orderly.once

/-- Opening a session under an id that waits for one. -/
theorem openSession (orderly : Orderly catalog number trace desk)
    (few : (allocatedIds trace).length ≤ UInt64.size) {id : String} (waits : id ∈ desk.pending) :
    Orderly catalog number (trace ++ [.opened id (desk.host.openSession id).1])
      { host := (desk.host.openSession id).2, pending := desk.pending.erase id } := by
  have unused := orderly.not_opened_of_pending few waits
  rw [Host.openSession_eq orderly.reached (orderly.not_live_of_pending few waits)]
  refine ⟨orderly.reached, orderly.asks, ?next, ?taken, ?waiting, ?began, ?live, ?passed, ?once⟩
  case next => simpa [Move.allocated?] using orderly.next
  case taken => simpa [Move.allocated?] using orderly.taken
  case waiting =>
    rw [allocatedIds_concat, openedIds_concat]
    show (desk.pending.erase id ++ (_ ++ [id])).Perm (_ ++ [])
    rw [List.append_nil, ← List.append_assoc]
    have used : (desk.pending.erase id ++ openedIds trace ++ [id]).Perm
        (id :: desk.pending.erase id ++ openedIds trace) := List.perm_append_singleton _ _
    have back : (id :: desk.pending.erase id).Perm desk.pending :=
      (List.perm_cons_erase waits).symm
    exact used.trans ((back.append_right _).trans orderly.waiting)
  case began =>
    intro other reply member
    rw [List.mem_append, List.mem_singleton] at member
    rcases member with earlier | now
    · exact orderly.began other reply earlier
    · injection now with same_id same_reply
      rw [same_id, same_reply, orderly.asks]
  case live =>
    intro other found
    rw [openedIds_concat, List.mem_append]
    by_cases same : id = other
    · exact .inr (by simp [Move.opened?, same])
    · refine .inl (orderly.live other ?_)
      simpa [same] using found
  case passed =>
    intro other other_passed
    rw [handedOffIds_concat] at other_passed
    simp only [Move.handedOff?, Option.toList_none, List.append_nil] at other_passed
    obtain ⟨used, gone⟩ := orderly.passed other other_passed
    have different : id ≠ other := by
      rintro rfl
      exact unused used
    refine ⟨by simp [used], ?_⟩
    simpa [different] using gone
  case once => simpa [Move.handedOff?] using orderly.once

/-- Any other call. -/
theorem served (orderly : Orderly catalog number trace desk) {call : Call}
    {reply : Except HostError Reply} {after : Host}
    (served : Served desk.host call reply after) :
    Orderly catalog number (trace ++ [.served call reply]) { desk with host := after } := by
  obtain ⟨same_catalog, same_next, same_outage⟩ := served.frame
  refine ⟨same_outage.trans orderly.reached, same_catalog.trans orderly.asks, ?next, ?taken,
    ?waiting, ?began, ?live, ?passed, ?once⟩
  case next => simpa [Move.allocated?, same_next] using orderly.next
  case taken => simpa [Move.allocated?] using orderly.taken
  case waiting => simpa [Move.allocated?, Move.opened?] using orderly.waiting
  case began => simpa using orderly.began
  case live =>
    intro id found
    rw [openedIds_concat, List.mem_append]
    exact .inl (orderly.live id (mt served.not_live found))
  case passed =>
    intro id handed
    rw [openedIds_concat, List.mem_append]
    rw [handedOffIds_concat, List.mem_append, Option.mem_toList] at handed
    rcases handed with earlier | now
    · obtain ⟨used, gone⟩ := orderly.passed id earlier
      exact ⟨.inl used, served.not_live gone⟩
    · obtain ⟨found, gone⟩ := served.passes now
      exact ⟨.inl (orderly.live id found), gone⟩
  case once =>
    have alone : (Move.served call reply).handedOff?.toList.Nodup := by
      cases (Move.served call reply).handedOff? <;> simp
    rw [handedOffIds_concat]
    refine orderly.once.append alone ?_
    intro id earlier now
    rw [Option.mem_toList] at now
    exact (served.passes now).1 (orderly.passed id earlier).2

/-- **A move keeps the order.** -/
theorem step (orderly : Orderly catalog number trace desk)
    (few : (allocatedIds trace).length ≤ UInt64.size) {move : Move} {next : Desk}
    (moved : Step desk move next) : Orderly catalog number (trace ++ [move]) next := by
  cases moved with
  | allocate => exact orderly.allocate
  | openSession waits => exact orderly.openSession few waits
  | serve other => exact orderly.served (Host.served orderly.reached other)

/-! ## What clients see -/

/-- Every start has returned the session that it took the id for. -/
theorem startedIds_eq (orderly : Orderly catalog number trace desk) :
    startedIds trace = openedIds trace := by
  refine List.filterMap_congr ?_
  intro move member
  cases move with
  | allocated | served => rfl
  | opened id reply =>
      rw [orderly.began id reply member]
      rfl

/-- A call on a session that was handed off does not find it. -/
theorem reply_of_passed (orderly : Orderly catalog number trace desk) {id : String}
    (handed : id ∈ handedOffIds trace) {call : Call} {reply : Except HostError Reply}
    {next : Desk} (moved : Step desk (.served call reply) next)
    (on : call.session? = some id) (known : call.Known catalog) :
    reply = .error (.roster .notFound) := by
  cases moved with
  | serve other =>
      have served := Host.served orderly.reached other
      exact served.reply_of_gone on (orderly.asks ▸ known) (orderly.passed id handed).2

end Orderly

/-- A run keeps the order. -/
theorem orderly_of_execution {catalog : Catalog} {number : UInt64} {trace : List Move}
    {last : Desk} (ran : Execution (.fresh catalog number) trace last)
    (few : (allocatedIds trace).length ≤ UInt64.size) : Orderly catalog number trace last := by
  induction ran with
  | idle => exact .fresh catalog number
  | step _ moved earlier =>
      rw [allocatedIds_concat, List.length_append] at few
      have fewer := Nat.le_trans (Nat.le_add_right _ _) few
      exact (earlier fewer).step fewer moved

/-- **A session is handed off at most once.**  Whatever clients do at once, every start
returns a session of its own, and a session handed off is not found any more. -/
theorem session_handed_off_at_most_once {catalog : Catalog} {number : UInt64}
    {trace : List Move} {last : Desk} (ran : Execution (.fresh catalog number) trace last)
    (few : (allocatedIds trace).length < UInt64.size) :
    (startedIds trace).Nodup ∧
      (∀ id reply, .opened id reply ∈ trace → reply = .ok (.ofRun id (.start catalog))) ∧
      (handedOffIds trace).Nodup ∧
      ∀ before after id told,
        trace = before ++ .served (.complete id) (.ok told) :: after →
        ∀ call reply, .served call reply ∈ after → call.session? = some id →
          call.Known catalog → reply = .error (.roster .notFound) := by
  have enough := Nat.le_of_lt few
  have orderly := orderly_of_execution ran enough
  refine ⟨?started, orderly.began, orderly.once, ?gone⟩
  case started =>
    rw [orderly.startedIds_eq]
    exact (List.nodup_append.1 (orderly.nodup_waiting enough)).2.1
  case gone =>
    intro before after id told cut call reply later on known
    obtain ⟨between, rest, rfl⟩ := List.append_of_mem later
    -- the run is cut right before the later call, where it is orderly as well
    rw [cut, ← List.cons_append, ← List.append_assoc] at ran enough
    rw [allocatedIds_append, List.length_append] at enough
    obtain ⟨desk, sofar, onward⟩ := Execution.append_iff.1 ran
    obtain ⟨next, moved, -⟩ := Execution.cons_iff.1 onward
    have handed : id ∈ handedOffIds (before ++ .served (.complete id) (.ok told) :: between) := by
      refine List.mem_filterMap.2 ⟨.served (.complete id) (.ok told), ?_, rfl⟩
      exact List.mem_append_right _ List.mem_cons_self
    have orderly := orderly_of_execution sofar (Nat.le_trans (Nat.le_add_right _ _) enough)
    exact orderly.reply_of_passed handed moved on known

/-! ## Two clients -/

namespace Sample

/-- One question, always shown, that eliminates nobody. -/
def plain : Catalog where
  metadata := {}
  processingInstructions := none
  scholarships := [{ scholarshipId := "A", scholarshipName := "First" }]
  tiers := [.ofTier {
    tierId := "early"
    tierOrder := 1
    questions := [{ questionId := "enrolled", questionType := .singleChoice }] }]

def answered : Run := (Run.start plain).after (.answered "enrolled" (.single "yes") none)

def passed : Handoff where
  eligible := ["A"]
  answers := .ofList [("enrolled", .single "yes")]

/-- Two starts that cross, and a session that is completed while a reset is on its way. -/
def visits : List Move := [
  .allocated "session-000001",
  .allocated "session-000002",
  .opened "session-000002" (.ok (.ofRun "session-000002" (.start plain))),
  .opened "session-000001" (.ok (.ofRun "session-000001" (.start plain))),
  .served (.answer "session-000002" "enrolled" { value := .single "yes" })
    (.ok (.session (.ofRun "session-000002" answered))),
  .served (.complete "session-000002") (.ok (.handoff passed)),
  .served (.reset "session-000002") (.error (.roster .notFound))]

/-- The desk with these sessions live, once two ids were taken. -/
def desk (live : Keyed Run) (pending : List String) : Desk where
  host := { catalog := plain, next := 3, roster := { live } }
  pending

theorem padded_of_lt {number : Nat} (short : number < 10) :
    Text.padded 6 number = ['0', '0', '0', '0', '0', Text.digit number] := by
  have digits : Text.digits number = [Text.digit number] := by
    rw [Text.digits, if_pos short]
  rw [Text.padded, digits]
  rfl

theorem numbered_of_lt {number : UInt64} (short : number.toNat < 10) :
    Host.numbered number =
      String.ofList ("session-".toList ++ ['0', '0', '0', '0', '0', Text.digit number.toNat]) :=
  congrArg (fun digits => String.ofList ("session-".toList ++ digits)) (padded_of_lt short)

theorem numbered_one : Host.numbered 1 = "session-000001" :=
  (numbered_of_lt (by decide)).trans (by decide)

theorem numbered_two : Host.numbered 2 = "session-000002" :=
  (numbered_of_lt (by decide)).trans (by decide)

theorem allocated_both :
    Execution (.fresh plain 1) [.allocated "session-000001", .allocated "session-000002"]
      (desk .empty ["session-000002", "session-000001"]) := by
  rw [← numbered_one, ← numbered_two]
  exact Execution.cons_iff.2 ⟨_, .allocate, Execution.singleton_iff.2 .allocate⟩

/-- Both sessions live, and one of them answered. -/
theorem execution_answered :
    Execution (.fresh plain 1) (visits.take 5)
      (desk (((Keyed.empty.insert "session-000002" (.start plain)).insert "session-000001"
        (.start plain)).insert "session-000002" answered) []) := by
  refine allocated_both.append ?_
  refine Execution.cons_iff.2 ⟨_, .openSession (by decide), ?_⟩
  refine Execution.cons_iff.2 ⟨_, .openSession (by decide), ?_⟩
  exact Execution.singleton_iff.2 (.serve (by simp))

theorem execution_visits :
    Execution (.fresh plain 1) visits
      (desk (Keyed.empty.insert "session-000001" (.start plain)) []) := by
  refine execution_answered.append ?_
  refine Execution.cons_iff.2 ⟨_, .serve (by simp), ?_⟩
  exact Execution.singleton_iff.2 (.serve (by simp))

end Sample

theorem sample_handed_off_at_most_once :
    Execution (.fresh Sample.plain 1) Sample.visits
        (Sample.desk (Keyed.empty.insert "session-000001" (.start Sample.plain)) []) ∧
      (allocatedIds Sample.visits).length < UInt64.size ∧
      startedIds Sample.visits = ["session-000002", "session-000001"] ∧
      handedOffIds Sample.visits = ["session-000002"] ∧
      (startedIds Sample.visits).Nodup ∧
      (handedOffIds Sample.visits).Nodup ∧
      ∀ call reply, .served call reply ∈ Sample.visits.drop 6 →
        call.session? = some "session-000002" → call.Known Sample.plain →
        reply = .error (.roster .notFound) := by
  have few : (allocatedIds Sample.visits).length < UInt64.size := by decide
  obtain ⟨started, -, handed, gone⟩ :=
    session_handed_off_at_most_once Sample.execution_visits few
  refine ⟨Sample.execution_visits, few, rfl, rfl, started, handed, ?_⟩
  exact gone (Sample.visits.take 5) _ "session-000002" (.handoff Sample.passed) rfl

end Screening
