import LogRelay.Proofs.Delivery.Accounting

/-!
Fan-outs. A receiver passes each report on to every leaf as often as the leaf stands in it, so a
tally that stands in several places counts each report several times.
-/
set_option autoImplicit false

namespace LogRelay.Delivery

namespace Receiver

variable {ι σ τ : Type}

mutual

-- The leaves in the order in which they are told, each as often as it stands in the receiver.
def leaves : Receiver ι → List ι
  | .leaf name => [name]
  | .fanout receivers => leavesAll receivers

def leavesAll : List (Receiver ι) → List ι
  | [] => []
  | receiver :: rest => receiver.leaves ++ leavesAll rest

end

mutual

-- The receiver without the fan-outs in it that hold nothing, or nothing but such fan-outs.
def pruned : Receiver ι → Receiver ι
  | .leaf name => .leaf name
  | .fanout receivers => .fanout (prunedAll receivers)

def prunedAll : List (Receiver ι) → List (Receiver ι)
  | [] => []
  | receiver :: rest =>
      match receiver.pruned with
      | .fanout [] => prunedAll rest
      | kept => kept :: prunedAll rest

end

def tellEach (tell : ι → Report → σ → σ) (receiver : Receiver ι) (reports : List Report)
    (state : σ) : σ :=
  reports.foldl (fun state report => receiver.tell tell report state) state

-- What the leaves write down if all share one book and each adds a line whenever it is told. What
-- other leaves do in a run is what they would do by this book.
def transcript (receiver : Receiver ι) (reports : List Report) : List (ι × Report) :=
  receiver.tellEach (fun name report book => book ++ [(name, report)]) reports []

def toldTo [DecidableEq ι] (name : ι) (receiver : Receiver ι) (reports : List Report) :
    List Report :=
  ((receiver.transcript reports).filter fun line => line.1 = name).map Prod.snd

-- The part of a state that is a leaf's own: it changes when that leaf is told, and then only.
structure Owns (tell : ι → Report → σ → σ) (name : ι) (own : σ → τ) (step : Report → τ → τ) :
    Prop where
  told : ∀ report state, own (tell name report state) = step report (own state)
  spared : ∀ other report state, other ≠ name → own (tell other report state) = own state

mutual

theorem tell_leaves (tell : ι → Report → σ → σ) (report : Report) (receiver : Receiver ι)
    (state : σ) : receiver.tell tell report state =
      receiver.leaves.foldl (fun state name => tell name report state) state := by
  cases receiver with
  | leaf name => rfl
  | fanout receivers =>
      rw [Receiver.tell, leaves]
      exact tell_all_leaves tell report receivers state

theorem tell_all_leaves (tell : ι → Report → σ → σ) (report : Report)
    (receivers : List (Receiver ι)) (state : σ) : tellAll tell report receivers state =
      (leavesAll receivers).foldl (fun state name => tell name report state) state := by
  cases receivers with
  | nil => rfl
  | cons receiver rest =>
      rw [tellAll, leavesAll, List.foldl_append, ← tell_leaves tell report receiver state]
      exact tell_all_leaves tell report rest _

end

mutual

theorem pruned_leaves (receiver : Receiver ι) : receiver.pruned.leaves = receiver.leaves := by
  cases receiver with
  | leaf name => rfl
  | fanout receivers =>
      rw [pruned, leaves, leaves]
      exact pruned_all_leaves receivers

theorem pruned_all_leaves (receivers : List (Receiver ι)) :
    leavesAll (prunedAll receivers) = leavesAll receivers := by
  cases receivers with
  | nil => rfl
  | cons receiver rest =>
      have first := pruned_leaves receiver
      have others := pruned_all_leaves rest
      rw [prunedAll, leavesAll, ← first]
      split
      · next nothing => rw [others, nothing]; rfl
      · next kept _ => rw [leavesAll, others]

end

def calls (receiver : Receiver ι) (reports : List Report) : List (ι × Report) :=
  reports.flatMap fun report => receiver.leaves.map fun name => (name, report)

theorem calls_nobody (receiver : Receiver ι) (reports : List Report)
    (nobody : receiver.leaves = []) : receiver.calls reports = [] := by
  rw [calls, List.flatMap_eq_nil_iff]
  intro report _
  rw [nobody, List.map_nil]

theorem tell_each_calls (tell : ι → Report → σ → σ) (receiver : Receiver ι)
    (reports : List Report) (state : σ) : receiver.tellEach tell reports state =
      (receiver.calls reports).foldl (fun state call => tell call.1 call.2 state) state := by
  induction reports generalizing state with
  | nil => rfl
  | cons report rest ih =>
      have once : receiver.tellEach tell (report :: rest) state =
          receiver.tellEach tell rest (receiver.tell tell report state) := rfl
      rw [once, ih, calls, calls, List.flatMap_cons, List.foldl_append, List.foldl_map,
        tell_leaves]

theorem transcript_eq_calls (receiver : Receiver ι) (reports : List Report) :
    receiver.transcript reports = receiver.calls reports := by
  rw [transcript, tell_each_calls, List.foldl_append_eq_append, List.nil_append,
    ← List.flatMap_def]
  exact List.flatMap_singleton' (receiver.calls reports)

theorem told_to_eq [DecidableEq ι] (name : ι) (receiver : Receiver ι) (reports : List Report) :
    receiver.toldTo name reports =
      reports.flatMap (List.replicate (receiver.leaves.count name)) := by
  have once (report : Report) :
      ((receiver.leaves.map fun leaf => (leaf, report)).filter fun line => line.1 = name).map
        Prod.snd = List.replicate (receiver.leaves.count name) report := by
    rw [List.filter_map, List.map_map]
    show ((receiver.leaves.filter fun leaf => leaf = name).map fun _ => report) = _
    rw [List.map_const', ← List.countP_eq_length_filter]
    rfl
  rw [toldTo, transcript_eq_calls, calls, List.filter_flatMap, List.map_flatMap]
  exact congrArg (reports.flatMap ·) (funext once)

theorem own_of_calls [DecidableEq ι] (tell : ι → Report → σ → σ) (name : ι) (own : σ → τ)
    (step : Report → τ → τ) (owns : Owns tell name own step) (book : List (ι × Report))
    (state : σ) : own (book.foldl (fun state call => tell call.1 call.2 state) state) =
      ((book.filter fun line => line.1 = name).map Prod.snd).foldl
        (fun mine report => step report mine) (own state) := by
  induction book generalizing state with
  | nil => rfl
  | cons call rest ih =>
      rw [List.foldl_cons, ih]
      by_cases same : call.1 = name
      · rw [List.filter_cons_of_pos (by simpa using same), List.map_cons, List.foldl_cons, same,
          owns.told]
      · rw [List.filter_cons_of_neg (by simpa using same), owns.spared _ _ _ same]

theorem own_after [DecidableEq ι] (tell : ι → Report → σ → σ) (name : ι) (own : σ → τ)
    (step : Report → τ → τ) (owns : Owns tell name own step) (receiver : Receiver ι)
    (reports : List Report) (state : σ) : own (receiver.tellEach tell reports state) =
      (receiver.toldTo name reports).foldl (fun mine report => step report mine) (own state) := by
  rw [tell_each_calls, own_of_calls tell name own step owns, toldTo, transcript_eq_calls]

end Receiver

theorem count_repeated (places : Nat) (reports : List Report) (outcome : Outcome) :
    ((reports.flatMap (List.replicate places)).map Report.outcome).count outcome =
      places * (reports.map Report.outcome).count outcome := by
  induction reports with
  | nil => rfl
  | cons report rest ih =>
      rw [List.flatMap_cons, List.map_append, List.count_append, ih, List.map_replicate,
        List.map_cons]
      by_cases same : report.outcome = outcome
      · rw [same, List.count_replicate_self, List.count_cons_self, Nat.mul_succ, Nat.add_comm]
      · rw [List.count_cons_of_ne same, List.count_eq_zero_of_not_mem, Nat.zero_add]
        exact fun member => same (List.eq_of_mem_replicate member).symm

theorem count_drops (reports : List Report) :
    let outcomes := reports.map Report.outcome
    outcomes.countP Outcome.isDrop =
      outcomes.count .noConnection + outcomes.count .overloaded + outcomes.count .failed := by
  induction reports with
  | nil => rfl
  | cons report rest ih =>
      simp only [List.map_cons, List.countP_cons, List.count_cons] at ih ⊢
      rw [ih]
      cases report.outcome <;> simp [Outcome.isDrop] <;> omega

theorem journal_tally (journal : Journal) (reports : List Report) :
    (journal.tellAll reports).tally =
      reports.foldl (fun tally report => tally.tell report) journal.tally := by
  induction reports generalizing journal with
  | nil => rfl
  | cons report rest ih => exact ih (journal.tell report)

theorem tally_of_repeated (places : Nat) (reports : List Report) (outcome : Outcome) :
    ((reports.flatMap (List.replicate places)).foldl (fun tally report => tally.tell report)
      Tally.zero).get outcome =
        UInt64.ofNat (places * (reports.map Report.outcome).count outcome) := by
  have counted := tell_all_tally .empty (reports.flatMap (List.replicate places)) outcome
  have nothing : Tally.zero.get outcome = 0 := by cases outcome <;> rfl
  rw [journal_tally, count_repeated] at counted
  simpa [Journal.empty, nothing] using counted

theorem dropped_of_repeated (tally : Tally) (places : Nat) (reports : List Report)
    (counted : ∀ outcome, tally.get outcome =
      UInt64.ofNat (places * (reports.map Report.outcome).count outcome))
    (few : places * (reports.map Report.outcome).countP Outcome.isDrop < UInt64.size) :
    tally.dropped.toNat = places * (reports.map Report.outcome).countP Outcome.isDrop := by
  have drops := congrArg (places * ·) (count_drops reports)
  simp only [Nat.mul_add] at drops
  have exact (outcome : Outcome)
      (within : places * (reports.map Report.outcome).count outcome ≤
        places * (reports.map Report.outcome).countP Outcome.isDrop) :
      (tally.get outcome).toNat = places * (reports.map Report.outcome).count outcome := by
    rw [counted, UInt64.toNat_ofNat_of_lt' (Nat.lt_of_le_of_lt within few)]
  have unreached := exact .noConnection (by omega)
  have overloaded := exact .overloaded (by omega)
  have failed := exact .failed (by omega)
  rw [tally_dropped tally (by omega), unreached, overloaded, failed, drops]

theorem every_place_told {ι : Type} [DecidableEq ι] (receiver : Receiver ι)
    (reports : List Report) (name : ι) :
    let places := receiver.leaves.count name
    let outcomes := reports.map Report.outcome
    (∀ (σ : Type) (tell : ι → Report → σ → σ) (state : σ), receiver.tellEach tell reports state =
      (receiver.transcript reports).foldl (fun state line => tell line.1 line.2 state) state) ∧
    receiver.toldTo name reports = reports.flatMap (List.replicate places) ∧
    (∀ (σ τ : Type) (tell : ι → Report → σ → σ) (own : σ → τ) (step : Report → τ → τ) (state : σ),
      Receiver.Owns tell name own step → own (receiver.tellEach tell reports state) =
        (reports.flatMap (List.replicate places)).foldl (fun mine report => step report mine)
          (own state)) ∧
    (∀ (σ : Type) (tell : ι → Report → σ → σ) (own : σ → Tally) (state : σ),
      Receiver.Owns tell name own Tally.tell → own state = .zero →
        let tally := own (receiver.tellEach tell reports state)
        (∀ outcome, places * outcomes.count outcome < UInt64.size →
          (tally.get outcome).toNat = places * outcomes.count outcome) ∧
        (places * outcomes.countP Outcome.isDrop < UInt64.size →
          tally.dropped.toNat = places * outcomes.countP Outcome.isDrop)) ∧
    (∀ (σ : Type) (tell : ι → Report → σ → σ) (state : σ),
      (receiver.leaves = [] → receiver.tellEach tell reports state = state) ∧
      receiver.pruned.tellEach tell reports state = receiver.tellEach tell reports state) := by
  intro places outcomes
  have told := Receiver.told_to_eq name receiver reports
  refine ⟨?_, told, ?_, ?_, ?_⟩
  · intro σ tell state
    rw [Receiver.tell_each_calls, Receiver.transcript_eq_calls]
  · intro σ τ tell own step state owns
    rw [Receiver.own_after tell name own step owns, told]
  · intro σ tell own state owns fresh tally
    have counted (outcome : Outcome) :
        tally.get outcome = UInt64.ofNat (places * outcomes.count outcome) := by
      rw [← tally_of_repeated, ← fresh, ← told, ← Receiver.own_after tell name own _ owns]
    refine ⟨?_, dropped_of_repeated tally places reports counted⟩
    intro outcome few
    rw [counted, UInt64.toNat_ofNat_of_lt' few]
  · intro σ tell state
    refine ⟨?_, ?_⟩
    · intro nobody
      rw [Receiver.tell_each_calls, Receiver.calls_nobody receiver reports nobody, List.foldl_nil]
    · simp only [Receiver.tell_each_calls, Receiver.calls, Receiver.pruned_leaves]

def sharedTally : Receiver Bool :=
  .fanout [.leaf true, .fanout [], .fanout [.leaf false, .leaf true, .fanout [.fanout []]],
    .leaf true]

def tellBoth : Bool → Report → Tally × Journal → Tally × Journal
  | true, report, (tally, journal) => (tally.tell report, journal)
  | false, report, (tally, journal) => (tally, journal.tell report)

def threeReports : List Report :=
  [.dropped ⟨"scribe", .overloaded, ⟨"app", "1"⟩, none⟩, .delivered,
    .dropped ⟨"scribe", .failed, ⟨"app", "2"⟩, some (.transport "gone")⟩]

theorem shared_tally_counts_thrice :
    Receiver.Owns tellBoth true Prod.fst Tally.tell ∧
      ∃ tally, (sharedTally.tellEach tellBoth threeReports (.zero, .empty)).1 = tally ∧
        (tally.get .failed).toNat = 3 ∧ tally.dropped.toNat = 6 := by
  have owns : Receiver.Owns tellBoth true Prod.fst Tally.tell :=
    { told := fun report state => rfl
      spared := fun other report state different => by
        cases other with
        | false => rfl
        | true => exact absurd rfl different }
  obtain ⟨_, _, _, counts, _⟩ := every_place_told sharedTally threeReports true
  obtain ⟨exact, dropped⟩ := counts _ tellBoth Prod.fst (.zero, .empty) owns rfl
  exact ⟨owns, _, rfl, exact .failed (by decide), dropped (by decide)⟩

end LogRelay.Delivery
