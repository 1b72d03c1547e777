import ArbitrageRuntime.Lib.Attempt
import ArbitrageRuntime.Lib.Transition
import Mathlib.Algebra.BigOperators.Group.Multiset.Basic
import Mathlib.Algebra.Order.BigOperators.Group.List
import Mathlib.Data.Multiset.AddSub

/-- A queue with room for so many elements. -/
structure Channel (capacity : Nat) (α : Type) where
  items : List α
  fits : items.length ≤ capacity

namespace Channel

variable {capacity : Nat} {α : Type}

def empty : Channel capacity α := ⟨[], Nat.zero_le _⟩

def remaining (channel : Channel capacity α) : Nat := capacity - channel.items.length

/-- A sender waits until there is room. -/
def send (channel : Channel capacity α) (item : α) : Option (Channel capacity α) :=
  if room : channel.items.length < capacity then
    some ⟨channel.items ++ [item], by rw [List.length_append, List.length_singleton]; omega⟩
  else none

/-- A receiver waits until there is something. -/
def recv : Channel capacity α → Option (α × Channel capacity α)
  | ⟨[], _⟩ => none
  | ⟨item :: items, fits⟩ => some (item, ⟨items, by simp at fits; omega⟩)

theorem send_eq_some {channel next : Channel capacity α} {item : α} :
    channel.send item = some next ↔ channel.items.length < capacity ∧ next.items = channel.items ++ [item] := by
  unfold send
  split
  · rename_i room
    simp only [Option.some.injEq, room, true_and]
    constructor
    · rintro rfl
      rfl
    · intro items
      cases next
      simp only [mk.injEq]
      exact items.symm
  · rename_i full
    simp [full]

theorem send_eq_none {channel : Channel capacity α} {item : α} :
    channel.send item = none ↔ channel.items.length = capacity := by
  have fits := channel.fits
  unfold send
  split
  · rename_i room
    simp only [reduceCtorEq, false_iff]
    omega
  · rename_i full
    simp only [true_iff]
    omega

theorem recv_eq_some {channel next : Channel capacity α} {item : α} :
    channel.recv = some (item, next) ↔ channel.items = item :: next.items := by
  cases channel with
  | mk items fits =>
    cases next with
    | mk rest fits' =>
      cases items with
      | nil => simp [recv]
      | cons first items => simp [recv]

theorem recv_eq_none {channel : Channel capacity α} : channel.recv = none ↔ channel.items = [] := by
  cases channel with
  | mk items fits =>
    cases items with
    | nil => simp [recv]
    | cons first items => simp [recv]

end Channel

/-- Where a worker stands: it waits for its turn at the shared receiver, it holds the receiver, it has a task, it
works on the task, or it waits to hand on the result. -/
inductive Worker (α β : Type)
  | waiting
  | receiving
  | received (task : α)
  | busy (task : α)
  | sending (result : β)
  | stopped

inductive Move (Reading : Type)
  | lock
  | recv
  | check
  | work (reading : Reading)
  | send

/-- Some workers between two queues. -/
structure Pool (inbound outbound : Nat) (α β : Type) where
  source : Channel inbound α
  workers : List (Worker α β)
  sink : Channel outbound β
  dropped : List α

namespace Pool

variable {inbound outbound : Nat} {α β Reading ε : Type}

def Receives : Worker α β → Bool
  | .receiving => true
  | _ => false

def put (pool : Pool inbound outbound α β) (index : Nat) (worker : Worker α β) : Pool inbound outbound α β :=
  { pool with workers := pool.workers.set index worker }

/-- A move of one worker. A task that comes in while work is suspended is dropped, and so is a task that leads to
nothing; a worker that fails is gone. -/
def move (work : Reading → α → Attempt ε β) (suspended : Bool) (pool : Pool inbound outbound α β) (index : Nat)
    (step : Move Reading) : Option (Pool inbound outbound α β) :=
  match pool.workers[index]?, step with
  | some .waiting, .lock => if pool.workers.any Receives then none else some (pool.put index .receiving)
  | some .receiving, .recv =>
    match pool.source.recv with
    | none => none
    | some (task, source) => some { pool.put index (.received task) with source := source }
  | some (.received task), .check =>
    if suspended then some { pool.put index .waiting with dropped := pool.dropped ++ [task] }
    else some (pool.put index (.busy task))
  | some (.busy task), .work reading =>
    match work reading task with
    | .gives result => some (pool.put index (.sending result))
    | .declines => some { pool.put index .waiting with dropped := pool.dropped ++ [task] }
    | .fails _ => some { pool.put index .stopped with dropped := pool.dropped ++ [task] }
  | some (.sending result), .send =>
    match pool.sink.send result with
    | none => none
    | some sink => some { pool.put index .waiting with sink := sink }
  | _, _ => none

/-- What a worker can do, with all that it changes. -/
inductive Moved (work : Reading → α → Attempt ε β) (suspended : Bool) (pool : Pool inbound outbound α β) (index : Nat) :
    Pool inbound outbound α β → Prop
  | locks (place : pool.workers[index]? = some .waiting) (free : ¬ pool.workers.any Receives) :
    Moved work suspended pool index (pool.put index .receiving)
  | receives {task : α} {source : Channel inbound α} (place : pool.workers[index]? = some .receiving)
    (taken : pool.source.items = task :: source.items) :
    Moved work suspended pool index { pool.put index (.received task) with source := source }
  | skips {task : α} (place : pool.workers[index]? = some (.received task)) (paused : suspended = true) :
    Moved work suspended pool index { pool.put index .waiting with dropped := pool.dropped ++ [task] }
  | starts {task : α} (place : pool.workers[index]? = some (.received task)) (goesOn : suspended = false) :
    Moved work suspended pool index (pool.put index (.busy task))
  | gives {task : α} {reading : Reading} {result : β} (place : pool.workers[index]? = some (.busy task))
    (given : work reading task = .gives result) : Moved work suspended pool index (pool.put index (.sending result))
  | declines {task : α} {reading : Reading} (place : pool.workers[index]? = some (.busy task))
    (given : work reading task = .declines) :
    Moved work suspended pool index { pool.put index .waiting with dropped := pool.dropped ++ [task] }
  | fails {task : α} {reading : Reading} {error : ε} (place : pool.workers[index]? = some (.busy task))
    (given : work reading task = .fails error) :
    Moved work suspended pool index { pool.put index .stopped with dropped := pool.dropped ++ [task] }
  | sends {result : β} {sink : Channel outbound β} (place : pool.workers[index]? = some (.sending result))
    (room : pool.sink.items.length < outbound) (sent : sink.items = pool.sink.items ++ [result]) :
    Moved work suspended pool index { pool.put index .waiting with sink := sink }

variable {work : Reading → α → Attempt ε β} {suspended : Bool} {pool next : Pool inbound outbound α β} {index : Nat}
  {step : Move Reading}

theorem moved_of_move (moves : pool.move work suspended index step = some next) :
    Moved work suspended pool index next := by
  unfold move at moves
  split at moves
  · rename_i place
    split at moves
    · exact absurd moves (by simp)
    · rename_i free
      cases Option.some.inj moves
      exact .locks place free
  · rename_i place
    split at moves
    · exact absurd moves (by simp)
    · rename_i task source taken
      cases Option.some.inj moves
      exact .receives place (Channel.recv_eq_some.mp taken)
  · rename_i task place
    split at moves
    · rename_i paused
      cases Option.some.inj moves
      exact .skips place paused
    · rename_i goesOn
      cases Option.some.inj moves
      exact .starts place (by simpa using goesOn)
  · rename_i task reading place
    split at moves
    · rename_i result given
      cases Option.some.inj moves
      exact .gives place given
    · rename_i given
      cases Option.some.inj moves
      exact .declines place given
    · rename_i error given
      cases Option.some.inj moves
      exact .fails place given
  · rename_i result place
    split at moves
    · exact absurd moves (by simp)
    · rename_i sink sent
      cases Option.some.inj moves
      obtain ⟨room, items⟩ := Channel.send_eq_some.mp sent
      exact .sends place room items
  · exact absurd moves (by simp)

/-- One worker changes, and a sum over the workers with it. -/
theorem sum_set {M : Type} [AddCommMonoid M] (weight : Worker α β → M) {workers : List (Worker α β)}
    {worker : Worker α β} (place : workers[index]? = some worker) (worker' : Worker α β) :
    ((workers.set index worker').map weight).sum + weight worker = (workers.map weight).sum + weight worker' := by
  induction workers generalizing index with
  | nil => simp at place
  | cons first workers ih =>
    cases index with
    | zero =>
      cases Option.some.inj place
      simp only [List.set_cons_zero, List.map_cons, List.sum_cons]
      rw [add_right_comm, add_comm (weight worker'), add_right_comm]
    | succ index =>
      simp only [List.set_cons_succ, List.map_cons, List.sum_cons]
      rw [add_assoc, add_assoc, ih place]

theorem count_set {Origin : Type} [DecidableEq Origin] (weight : Worker α β → Multiset Origin)
    {workers : List (Worker α β)} {worker : Worker α β} (place : workers[index]? = some worker) (worker' : Worker α β)
    (x : Origin) :
    ((workers.set index worker').map weight).sum.count x + (weight worker).count x =
      (workers.map weight).sum.count x + (weight worker').count x := by
  rw [← Multiset.count_add, ← Multiset.count_add, sum_set weight place]

/-- Workers that hold at most one thing each. -/
theorem card_sum_le {Origin : Type} {weight : Worker α β → Multiset Origin} (one : ∀ worker, (weight worker).card ≤ 1)
    (workers : List (Worker α β)) : (workers.map weight).sum.card ≤ workers.length := by
  induction workers with
  | nil => exact le_refl 0
  | cons worker workers ih =>
    have first := one worker
    rw [List.map_cons, List.sum_cons, Multiset.card_add, List.length_cons]
    omega

theorem length_workers (moved : Moved work suspended pool index next) : next.workers.length = pool.workers.length := by
  cases moved with
  | _ => exact List.length_set

section Load

variable {Origin : Type} (origin : α → Origin) (origin' : β → Origin)

def workerLoad : Worker α β → Multiset Origin
  | .received task => {origin task}
  | .busy task => {origin task}
  | .sending result => {origin' result}
  | _ => 0

/-- The origins of all that is on its way through the pool or has come out of it. -/
def load (pool : Pool inbound outbound α β) : Multiset Origin :=
  (pool.source.items.map origin : Multiset Origin) + (pool.workers.map (workerLoad origin origin')).sum +
    (pool.dropped.map origin : Multiset Origin) + (pool.sink.items.map origin' : Multiset Origin)

/-- Every move keeps the load, so that nothing is lost and nothing is doubled. -/
theorem load_moved (traced : ∀ reading task result, work reading task = .gives result → origin' result = origin task)
    (moved : Moved work suspended pool index next) : next.load origin origin' = pool.load origin origin' := by
  classical
  ext x
  unfold load
  simp only [Multiset.count_add]
  cases moved with
  | locks place free =>
    have sum := count_set (workerLoad origin origin') place .receiving x
    simp only [workerLoad, Multiset.count_zero] at sum
    simp only [put]
    omega
  | receives place taken =>
    rename_i task source
    have sum := count_set (workerLoad origin origin') place (.received task) x
    simp only [workerLoad, Multiset.count_zero] at sum
    rw [taken, List.map_cons, ← Multiset.cons_coe, ← Multiset.singleton_add, Multiset.count_add]
    simp only [put]
    omega
  | skips place paused =>
    rename_i task
    have sum := count_set (workerLoad origin origin') place .waiting x
    simp only [workerLoad, Multiset.count_zero] at sum
    simp only [put, List.map_append, ← Multiset.coe_add, Multiset.count_add, List.map_singleton, Multiset.coe_singleton]
    omega
  | starts place goesOn =>
    rename_i task
    have sum := count_set (workerLoad origin origin') place (.busy task) x
    simp only [workerLoad] at sum
    simp only [put]
    omega
  | gives place given =>
    rename_i task reading result
    have sum := count_set (workerLoad origin origin') place (.sending result) x
    simp only [workerLoad, traced reading task result given] at sum
    simp only [put]
    omega
  | declines place given =>
    rename_i task reading
    have sum := count_set (workerLoad origin origin') place .waiting x
    simp only [workerLoad, Multiset.count_zero] at sum
    simp only [put, List.map_append, ← Multiset.coe_add, Multiset.count_add, List.map_singleton, Multiset.coe_singleton]
    omega
  | fails place given =>
    rename_i task reading error
    have sum := count_set (workerLoad origin origin') place .stopped x
    simp only [workerLoad, Multiset.count_zero] at sum
    simp only [put, List.map_append, ← Multiset.coe_add, Multiset.count_add, List.map_singleton, Multiset.coe_singleton]
    omega
  | sends place room sent =>
    rename_i result sink
    have sum := count_set (workerLoad origin origin') place .waiting x
    simp only [workerLoad, Multiset.count_zero] at sum
    rw [sent]
    simp only [put, List.map_append, ← Multiset.coe_add, Multiset.count_add, List.map_singleton, Multiset.coe_singleton]
    omega

theorem card_workers_le (workers : List (Worker α β)) :
    (workers.map (workerLoad origin origin')).sum.card ≤ workers.length := by
  refine card_sum_le (fun worker => ?_) workers
  cases worker with
  | received task => exact le_refl 1
  | busy task => exact le_refl 1
  | sending result => exact le_refl 1
  | _ => exact Nat.zero_le 1

def workerPromise : Worker α β → Multiset Origin
  | .busy task => {origin task}
  | .sending result => {origin' result}
  | _ => 0

/-- What may still come out of the pool while it is suspended: the work that has begun, and the results. -/
def promised (pool : Pool inbound outbound α β) : Multiset Origin :=
  (pool.workers.map (workerPromise origin origin')).sum + (pool.sink.items.map origin' : Multiset Origin)

theorem card_promised_le (pool : Pool inbound outbound α β) :
    (pool.promised origin origin').card ≤ pool.workers.length + outbound := by
  have few : (pool.workers.map (workerPromise origin origin')).sum.card ≤ pool.workers.length := by
    refine card_sum_le (fun worker => ?_) pool.workers
    cases worker with
    | busy task => exact le_refl 1
    | sending result => exact le_refl 1
    | _ => exact Nat.zero_le 1
  have fits := pool.sink.fits
  rw [promised, Multiset.card_add, Multiset.coe_card, List.length_map]
  omega

theorem promised_moved (traced : ∀ reading task result, work reading task = .gives result → origin' result = origin task)
    (moved : Moved work true pool index next) : next.promised origin origin' ≤ pool.promised origin origin' := by
  classical
  rw [Multiset.le_iff_count]
  intro x
  unfold promised
  simp only [Multiset.count_add]
  cases moved with
  | locks place free =>
    have sum := count_set (workerPromise origin origin') place .receiving x
    simp only [workerPromise, Multiset.count_zero] at sum
    simp only [put]
    omega
  | receives place taken =>
    rename_i task source
    have sum := count_set (workerPromise origin origin') place (.received task) x
    simp only [workerPromise, Multiset.count_zero] at sum
    simp only [put]
    omega
  | skips place paused =>
    have sum := count_set (workerPromise origin origin') place .waiting x
    simp only [workerPromise, Multiset.count_zero] at sum
    simp only [put]
    omega
  | starts place goesOn => exact absurd goesOn (by simp)
  | gives place given =>
    rename_i task reading result
    have sum := count_set (workerPromise origin origin') place (.sending result) x
    simp only [workerPromise, traced reading task result given] at sum
    simp only [put]
    omega
  | declines place given =>
    have sum := count_set (workerPromise origin origin') place .waiting x
    simp only [workerPromise, Multiset.count_zero] at sum
    simp only [put]
    omega
  | fails place given =>
    have sum := count_set (workerPromise origin origin') place .stopped x
    simp only [workerPromise, Multiset.count_zero] at sum
    simp only [put]
    omega
  | sends place room sent =>
    rename_i result sink
    have sum := count_set (workerPromise origin origin') place .waiting x
    simp only [workerPromise, Multiset.count_zero] at sum
    rw [sent]
    simp only [put, List.map_append, ← Multiset.coe_add, Multiset.count_add, List.map_singleton, Multiset.coe_singleton]
    omega

end Load

section Good

variable {good : α → Prop} {good' : β → Prop}

def WorkerGood (good : α → Prop) (good' : β → Prop) : Worker α β → Prop
  | .received task => good task
  | .busy task => good task
  | .sending result => good' result
  | _ => True

/-- Every task that goes in is good, and so is every result that comes out. -/
structure Good (good : α → Prop) (good' : β → Prop) (pool : Pool inbound outbound α β) : Prop where
  source : ∀ task ∈ pool.source.items, good task
  workers : ∀ worker ∈ pool.workers, WorkerGood good good' worker
  sink : ∀ result ∈ pool.sink.items, good' result

theorem Good.moved (all : pool.Good good good')
    (makes : ∀ reading task result, good task → work reading task = .gives result → good' result)
    (moved : Moved work suspended pool index next) : next.Good good good' := by
  have place : ∀ {worker : Worker α β}, pool.workers[index]? = some worker → WorkerGood good good' worker :=
    fun found => all.workers _ (List.mem_of_getElem? found)
  have put : ∀ {worker : Worker α β}, WorkerGood good good' worker →
      ∀ other ∈ pool.workers.set index worker, WorkerGood good good' other := by
    intro worker fine other member
    rcases List.mem_or_eq_of_mem_set member with old | rfl
    · exact all.workers other old
    · exact fine
  cases moved with
  | locks found free => exact ⟨all.source, put trivial, all.sink⟩
  | receives found taken =>
    have both := all.source
    rw [taken] at both
    exact ⟨fun task member => both task (List.mem_cons_of_mem _ member), put (both _ List.mem_cons_self), all.sink⟩
  | skips found paused => exact ⟨all.source, put trivial, all.sink⟩
  | starts found goesOn =>
    rename_i task
    have fine : good task := place found
    have begun : WorkerGood good good' (.busy task : Worker α β) := fine
    exact ⟨all.source, put begun, all.sink⟩
  | gives found given => exact ⟨all.source, put (makes _ _ _ (place found) given), all.sink⟩
  | declines found given => exact ⟨all.source, put trivial, all.sink⟩
  | fails found given => exact ⟨all.source, put trivial, all.sink⟩
  | sends found room sent =>
    refine ⟨all.source, put trivial, ?_⟩
    intro result member
    rw [sent] at member
    rcases List.mem_append.mp member with old | new
    · exact all.sink result old
    · rw [List.mem_singleton.mp new]
      exact place found

end Good

section Stalled

/-- No worker can move. -/
def Stalled (work : Reading → α → Attempt ε β) (suspended : Bool) (pool : Pool inbound outbound α β) : Prop :=
  ∀ index step, pool.move work suspended index step = none

theorem any_receives {workers : List (Worker α β)} : workers.any Receives ↔ .receiving ∈ workers := by
  rw [List.any_eq_true]
  constructor
  · rintro ⟨worker, member, receives⟩
    cases worker with
    | receiving => exact member
    | _ => exact absurd receives (by simp [Receives])
  · intro member
    exact ⟨.receiving, member, rfl⟩

/-- No worker can move exactly when each is gone, waits for room behind it, or waits for a task in front of it. -/
theorem stalled_iff [Nonempty Reading] :
    pool.Stalled work suspended ↔ ∀ worker ∈ pool.workers, worker = .stopped ∨
      (∃ result, worker = .sending result ∧ pool.sink.items.length = outbound) ∨
      (worker = .receiving ∧ pool.source.items = []) ∨ (worker = .waiting ∧ .receiving ∈ pool.workers) := by
  constructor
  · intro stalled worker member
    obtain ⟨index, place⟩ := List.mem_iff_getElem?.mp member
    cases worker with
    | stopped => exact Or.inl rfl
    | waiting =>
      have still := stalled index .lock
      simp only [move, place] at still
      split at still
      · rename_i taken
        exact Or.inr (Or.inr (Or.inr ⟨rfl, any_receives.mp taken⟩))
      · exact absurd still (by simp)
    | receiving =>
      have still := stalled index .recv
      simp only [move, place] at still
      split at still
      · rename_i empty
        exact Or.inr (Or.inr (Or.inl ⟨rfl, Channel.recv_eq_none.mp empty⟩))
      · exact absurd still (by simp)
    | received task =>
      have still := stalled index .check
      simp only [move, place] at still
      split at still
      · exact absurd still (by simp)
      · exact absurd still (by simp)
    | busy task =>
      have still := stalled index (.work (Classical.arbitrary Reading))
      simp only [move, place] at still
      split at still
      · exact absurd still (by simp)
      · exact absurd still (by simp)
      · exact absurd still (by simp)
    | sending result =>
      have still := stalled index .send
      simp only [move, place] at still
      split at still
      · rename_i full
        exact Or.inr (Or.inl ⟨result, rfl, Channel.send_eq_none.mp full⟩)
      · exact absurd still (by simp)
  · intro waits index step
    cases moves : pool.move work suspended index step with
    | none => rfl
    | some next =>
      have position : ∀ {worker : Worker α β}, pool.workers[index]? = some worker → worker ∈ pool.workers :=
        fun place => List.mem_of_getElem? place
      cases moved_of_move moves with
      | locks place free =>
        have inside : Worker.receiving ∈ pool.workers := by simpa using waits _ (position place)
        exact absurd (any_receives.mpr inside) free
      | receives place taken =>
        have empty : pool.source.items = [] := by simpa using waits _ (position place)
        exact absurd (empty.symm.trans taken) (by simp)
      | skips place paused => exact absurd (waits _ (position place)) (by simp)
      | starts place goesOn => exact absurd (waits _ (position place)) (by simp)
      | gives place given => exact absurd (waits _ (position place)) (by simp)
      | declines place given => exact absurd (waits _ (position place)) (by simp)
      | fails place given => exact absurd (waits _ (position place)) (by simp)
      | sends place room sent =>
        have full : pool.sink.items.length = outbound := by simpa using waits _ (position place)
        omega

/-- With tasks to be taken, a pool only stands still when each worker is gone or waits for room. -/
theorem stalled_iff_of_tasks [Nonempty Reading] (tasks : pool.source.items ≠ []) :
    pool.Stalled work suspended ↔ ∀ worker ∈ pool.workers, worker = .stopped ∨
      (∃ result, worker = .sending result ∧ pool.sink.items.length = outbound) := by
  rw [stalled_iff]
  constructor
  · intro waits worker member
    have taken : ∀ worker ∈ pool.workers, worker ≠ .receiving := by
      rintro _ member rfl
      have empty : pool.source.items = [] := by simpa using waits _ member
      exact tasks empty
    rcases waits worker member with gone | full | ⟨rfl, _⟩ | ⟨_, receives⟩
    · exact Or.inl gone
    · exact Or.inr full
    · exact absurd rfl (taken _ member)
    · exact absurd rfl (taken _ receives)
  · intro waits worker member
    rcases waits worker member with gone | full
    · exact Or.inl gone
    · exact Or.inr (Or.inl full)

end Stalled

section Failing

open Transition (System)

/-- The moves of all workers. -/
def system (work : Reading → α → Attempt ε β) (suspended : Bool) :
    System (Pool inbound outbound α β) (Nat × Move Reading) :=
  fun pool step => pool.move work suspended step.1 step.2

/-- A task on which the work fails costs the worker that takes it. -/
theorem leads_stopped (place : pool.workers[index]? = some .waiting) (free : ¬ pool.workers.any Receives) {task : α}
    {source : Channel inbound α} (taken : pool.source.recv = some (task, source)) {reading : Reading} {error : ε}
    (fails : work reading task = .fails error) :
    System.Leads (system work false) pool
      { pool.put index .stopped with source := source, dropped := pool.dropped ++ [task] } := by
  have inside : index < pool.workers.length := (List.getElem?_eq_some_iff.mp place).1
  have own : ∀ worker : Worker α β, (pool.workers.set index worker)[index]? = some worker :=
    fun worker => List.getElem?_set_self inside
  let received : Pool inbound outbound α β := { pool.put index (.received task) with source := source }
  have first : system work false pool (index, .lock) = some (pool.put index .receiving) := by
    simp [system, move, place, free]
  have second : system work false (pool.put index .receiving) (index, .recv) = some received := by
    simp [system, move, put, own, taken, received, List.set_set]
  have third : system work false received (index, .check) = some (received.put index (.busy task)) := by
    simp [system, move, put, own, received]
  have fourth : system work false (received.put index (.busy task)) (index, .work reading) =
      some { pool.put index .stopped with source := source, dropped := pool.dropped ++ [task] } := by
    simp [system, move, put, own, received, fails, List.set_set]
  exact (((System.Leads.step _ first).trans (.step _ second)).trans (.step _ third)).trans (.step _ fourth)

end Failing

end Pool
