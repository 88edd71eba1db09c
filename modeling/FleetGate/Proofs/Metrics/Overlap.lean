import Mathlib.Logic.Relation
import FleetGate.Proofs.Metrics.Counting

/-!
# Requests that overlap

Requests may come in while others are under way, and they may be over in any order. `Traffic` keeps
the instruments together with all visits so far; `Traffic.Step` is what can happen next at the
counting layer. Between two such steps the rest of the service may do with the instruments what it
likes, as long as the collector goes on to count the same requests.

The invariant is that the collector agrees with the visits (`Collector.Balances`). Each step keeps
it, since the layer touches the collector for the one visit that the step is about.
-/

namespace FleetGate

/-- A counted request is under way since a time, or it is over. -/
inductive Flight where
  | underWay (begun : Float)
  | over (outcome : Outcome)

/-- A counted request. -/
structure Visit where
  label : RequestLabel
  flight : Flight

namespace Visit

/-- The visit is under way under a label. -/
def isUnderWay (label : RequestLabel) (visit : Visit) : Bool :=
  match visit.flight with
  | .underWay _ => label = visit.label
  | .over _ => false

/-- The visit returned an answer under a label. -/
def isAnswered (label : AnswerLabel) (visit : Visit) : Bool :=
  match visit.flight with
  | .over (.ok response) => label.request = visit.label ∧ response.status.shown = label.status
  | _ => false

/-- The visit returned an answer under a label, whatever the status. -/
def isAnsweredAtAll (label : RequestLabel) (visit : Visit) : Bool :=
  match visit.flight with
  | .over (.ok _) => label = visit.label
  | _ => false

/-- The visit is over. -/
def isOver (visit : Visit) : Bool :=
  match visit.flight with
  | .underWay _ => false
  | .over _ => true

variable {own other : RequestLabel} {begun : Float} {outcome : Outcome}

@[simp]
theorem isUnderWay_underWay : isUnderWay other ⟨own, .underWay begun⟩ = decide (other = own) := rfl

@[simp]
theorem isUnderWay_over : isUnderWay other ⟨own, .over outcome⟩ = false := rfl

@[simp]
theorem isAnswered_underWay (label : AnswerLabel) :
    isAnswered label ⟨own, .underWay begun⟩ = false := rfl

@[simp]
theorem isAnswered_over (label : AnswerLabel) :
    isAnswered label ⟨own, .over outcome⟩ =
      decide (label.request = own ∧ outcome.status? = some label.status) := by
  cases outcome with
  | error raised => simp [isAnswered, Outcome.status?]
  | ok response => simp [isAnswered, Outcome.status?]

@[simp]
theorem isAnsweredAtAll_underWay : isAnsweredAtAll other ⟨own, .underWay begun⟩ = false := rfl

@[simp]
theorem isAnsweredAtAll_over :
    isAnsweredAtAll other ⟨own, .over outcome⟩ =
      decide (other = own ∧ outcome.status?.isSome) := by
  cases outcome with
  | error raised => simp [isAnsweredAtAll, Outcome.status?]
  | ok response => simp [isAnsweredAtAll, Outcome.status?]

theorem not_isUnderWay_of_isOver {visit : Visit} (isOver : visit.isOver = true)
    (label : RequestLabel) : visit.isUnderWay label = false := by
  rcases visit with ⟨own, begun | outcome⟩
  · cases isOver
  · rfl

end Visit

/-- A collector agrees with the visits so far. -/
structure Collector.Balances (collector : Collector) (visits : List Visit) : Prop where
  isSound : collector.IsSound
  underWay : ∀ label, collector.underWay label = visits.countP (·.isUnderWay label)
  answered : ∀ label, collector.answered label = visits.countP (·.isAnswered label)
  answeredInAll : ∀ label, collector.answeredInAll label = visits.countP (·.isAnsweredAtAll label)
  measured : ∀ label, collector.measured label = collector.answeredInAll label

namespace Collector.Balances

variable {collector other : Collector} {earlier later visits : List Visit} {label : RequestLabel}

theorem empty : Collector.empty.Balances [] :=
  ⟨isSound_empty, fun _ => rfl, fun _ => rfl, fun _ => rfl, fun _ => rfl⟩

theorem sameRequests (balances : collector.Balances visits) (same : collector.SameRequests other) :
    other.Balances visits := by
  refine ⟨same.isSound balances.isSound, ?_, ?_, ?_, ?_⟩
  · intro label
    rw [same.underWay_eq, balances.underWay]
  · intro label
    rw [same.answered_eq, balances.answered]
  · intro label
    rw [same.answeredInAll_eq, balances.answeredInAll]
  · intro label
    rw [same.measured_eq, same.answeredInAll_eq, balances.measured]

theorem started (balances : collector.Balances visits) (label : RequestLabel) (begun : Float) :
    (collector.started label).Balances (visits ++ [⟨label, .underWay begun⟩]) := by
  refine ⟨isSound_started balances.isSound label, ?_, ?_, ?_, balances.measured⟩
  · intro other
    rw [underWay_started, balances.underWay, List.countP_append, List.countP_singleton]
    simp only [Visit.isUnderWay_underWay, decide_eq_true_iff]
    by_cases same : other = label
    · simp [same]
    · simp [same]
  · intro other
    have kept : (collector.started label).answered other = collector.answered other := rfl
    rw [kept, balances.answered, List.countP_append, List.countP_singleton]
    simp
  · intro other
    have kept : (collector.started label).answeredInAll other = collector.answeredInAll other := rfl
    rw [kept, balances.answeredInAll, List.countP_append, List.countP_singleton]
    simp

theorem finished {begun duration : Float} {outcome : Outcome}
    (balances : collector.Balances (earlier ++ ⟨label, .underWay begun⟩ :: later))
    (isNumber : duration.isNaN = false) :
    (collector.finished label outcome duration).Balances
      (earlier ++ ⟨label, .over outcome⟩ :: later) := by
  -- The visits differ in one place, so each of their numbers changes by what stands there.
  refine ⟨balances.isSound.finished label outcome duration, ?_, ?_, ?_, ?_⟩
  · intro other
    rw [underWay_finished, balances.underWay]
    simp only [List.countP_append, List.countP_cons, Visit.isUnderWay_underWay,
      Visit.isUnderWay_over, decide_eq_true_iff]
    by_cases same : other = label
    · simp only [same, if_true, Bool.false_eq_true, if_false]
      omega
    · simp [same]
  · intro other
    rw [answered_finished, balances.answered]
    simp [List.countP_append, List.countP_cons, Nat.add_assoc]
  · intro other
    rw [answeredInAll_finished, balances.answeredInAll]
    simp [List.countP_append, List.countP_cons, Nat.add_assoc]
  · intro other
    rw [balances.isSound.measured_finished label outcome isNumber, answeredInAll_finished,
      balances.measured]

end Collector.Balances

/-- The instruments of a service with all counted requests so far. -/
structure Traffic where
  instruments : Instruments
  visits : List Visit

namespace Traffic

/-- Before the first request. -/
def fresh (watch : Stopwatch) : Traffic := ⟨⟨some .empty, watch⟩, []⟩

/-- What can happen next at a counting layer: a request comes in that is counted, one of those
under way is over, or something happens elsewhere. The time between two readings of a watch is a
number. -/
inductive Step (route : Request → Except Fault Text) : Traffic → Traffic → Prop where
  | arrive {instruments : Instruments} {visits : List Visit} {label : RequestLabel}
      (request : Request) (isHttp : request.isHttp = true)
      (counted : Counting.label? instruments route request = .ok (some label)) :
      Step route ⟨instruments, visits⟩
        ⟨(Counting.start instruments label).2,
          visits ++ [⟨label, .underWay (Counting.start instruments label).1⟩]⟩
  | depart {instruments : Instruments} {earlier later : List Visit} {label : RequestLabel}
      {begun : Float} (outcome : Outcome)
      (isNumber : (Counting.elapsed instruments begun).isNaN = false) :
      Step route ⟨instruments, earlier ++ ⟨label, .underWay begun⟩ :: later⟩
        ⟨(Counting.finish instruments label begun (Counting.settled outcome)).1,
          earlier ++ ⟨label, .over (Counting.settled outcome)⟩ :: later⟩
  | beside {instruments other : Instruments} {visits : List Visit}
      (same : instruments.SameRequests other) :
      Step route ⟨instruments, visits⟩ ⟨other, visits⟩

/-- What can happen in the course of time. -/
def Reaches (route : Request → Except Fault Text) : Traffic → Traffic → Prop :=
  Relation.ReflTransGen (Step route)

/-- The collector of the instruments agrees with the visits. -/
def IsBalanced (traffic : Traffic) : Prop :=
  ∃ collector, traffic.instruments.collector = some collector ∧
    collector.Balances traffic.visits

variable {route : Request → Except Fault Text} {traffic next : Traffic}

theorem Step.isBalanced (step : Step route traffic next) (balanced : traffic.IsBalanced) :
    next.IsBalanced := by
  rcases balanced with ⟨collector, isOn, balances⟩
  cases step with
  | @arrive instruments visits label request isHttp counted =>
      refine ⟨collector.started label, ?_, balances.started label _⟩
      rw [Counting.collector_start, isOn, Option.map_some]
  | @depart instruments earlier later label begun outcome isNumber =>
      refine ⟨_, ?_, balances.finished isNumber⟩
      rw [Counting.collector_finish, isOn, Option.map_some]
  | @beside instruments other visits same =>
      rcases same.exists_collector isOn with ⟨after, stillOn, sameCounts⟩
      exact ⟨after, stillOn, balances.sameRequests sameCounts⟩

theorem Reaches.isBalanced (reaches : Reaches route traffic next)
    (balanced : traffic.IsBalanced) : next.IsBalanced := by
  induction reaches with
  | refl => exact balanced
  | tail _ step ih => exact step.isBalanced ih

theorem isBalanced_fresh (watch : Stopwatch) : (fresh watch).IsBalanced :=
  ⟨.empty, rfl, .empty⟩

/-- A request that passes the layer alone comes in, leaves the counts alone, and is over. -/
theorem reaches_measure {inner : Handler} {instruments running after : Instruments}
    {request : Request} {label : RequestLabel} {begun : Float} {step : Traced Outcome}
    (visits : List Visit) (isHttp : request.isHttp = true)
    (counted : Counting.label? instruments route request = .ok (some label))
    (starts : Counting.start instruments label = (begun, running))
    (handled : inner running request = (after, step)) (same : running.SameRequests after)
    (isNumber : (Counting.elapsed after begun).isNaN = false) :
    Reaches route ⟨instruments, visits⟩
      ⟨(Counting.measure route inner instruments request).1,
        visits ++
          [⟨label, .over (Counting.measure route inner instruments request).2.result⟩]⟩ := by
  have arrives := @Step.arrive route instruments visits label request isHttp counted
  have departs := @Step.depart route after visits [] label begun step.result isNumber
  rw [starts] at arrives
  rw [Counting.measure_of_counted isHttp counted starts handled]
  exact ((Relation.ReflTransGen.single arrives).tail (.beside same)).tail departs

/-- However requests overlap, the collector knows how many are under way, with which status the
others were answered, and it has one duration for each answer. Requests that ended without an answer
leave nothing behind. -/
theorem collector_counts_visits {watch : Stopwatch} (reaches : Reaches route (fresh watch) traffic) :
    ∃ collector, traffic.instruments.collector = some collector ∧
      (∀ label, collector.underWay label = traffic.visits.countP (·.isUnderWay label) ∧
        0 ≤ collector.underWay label) ∧
      ((∀ visit ∈ traffic.visits, visit.isOver = true) →
        ∀ label, collector.underWay label = 0) ∧
      (∀ label, collector.answered label = traffic.visits.countP (·.isAnswered label)) ∧
      ∀ label, collector.measured label = collector.answeredInAll label ∧
        collector.measured label = traffic.visits.countP (·.isAnsweredAtAll label) := by
  rcases reaches.isBalanced (isBalanced_fresh watch) with ⟨collector, isOn, balances⟩
  refine ⟨collector, isOn, ?_, ?_, balances.answered, ?_⟩
  · intro label
    rw [balances.underWay]
    exact ⟨rfl, Int.natCast_nonneg _⟩
  · intro allOver label
    rw [balances.underWay, Int.natCast_eq_zero, List.countP_eq_zero]
    intro visit listed
    simp [visit.not_isUnderWay_of_isOver (allOver visit listed) label]
  · intro label
    rw [balances.measured, balances.answeredInAll]
    exact ⟨rfl, rfl⟩

/-- An answer without a body. -/
def bareAnswer (status : Status) : Outcome := .ok ⟨status, [], [], none⟩

/-- A request for rides. -/
def ridesRequest : Request := ⟨"server", true, "GET", [], "/rides", [], [], none⟩

/-- A watch that is read for the first time and goes on by a second from reading to reading. -/
def seconds : Stopwatch := ⟨Float.ofNat, 0⟩

/-- Two requests for rides have come in, the second one before the first one was over. The first one
was answered, and the second one was abandoned after that. -/
def twoRides (watch : Stopwatch) : Traffic :=
  let label : RequestLabel := ⟨"GET", "/rides"⟩
  let (begun, first) := Counting.start ⟨some .empty, watch⟩ label
  let (begunLater, second) := Counting.start first label
  let (third, _) := Counting.finish second label begun (bareAnswer 200)
  let (fourth, _) := Counting.finish third label begunLater (.error .abandoned)
  ⟨fourth, [⟨label, .over (bareAnswer 200)⟩, ⟨label, .over (.error .abandoned)⟩]⟩

theorem reaches_twoRides : Reaches Counting.pathLabel (fresh seconds) (twoRides seconds) :=
  (((Relation.ReflTransGen.refl.tail (.arrive ridesRequest rfl rfl)).tail
    (.arrive ridesRequest rfl rfl)).tail
      (@Step.depart _ _ [] [_] _ _ (bareAnswer 200) rfl)).tail
        (@Step.depart _ _ [_] [] _ _ (.error .abandoned) rfl)

theorem twoRides_counted :
    Reaches Counting.pathLabel (fresh seconds) (twoRides seconds) ∧
      ∃ collector, (twoRides seconds).instruments.collector = some collector ∧
        collector.underWay ⟨"GET", "/rides"⟩ = 0 ∧
        collector.answered ⟨⟨"GET", "/rides"⟩, "200"⟩ = 1 ∧
        collector.measured ⟨"GET", "/rides"⟩ = 1 := by
  refine ⟨reaches_twoRides, ?_⟩
  rcases collector_counts_visits reaches_twoRides with
    ⟨collector, isOn, _, allOver, answered, measured⟩
  refine ⟨collector, isOn, ?_, ?_, ?_⟩
  · exact allOver (by decide) _
  · rw [answered]
    rfl
  · rw [(measured _).2]
    rfl

end Traffic

end FleetGate
