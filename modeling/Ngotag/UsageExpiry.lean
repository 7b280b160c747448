import Ngotag.Alone
import Ngotag.Metering

/-!
Usage rows that wait for their submission. A tick takes the twenty-five oldest rows
that wait, whatever became of them before, and marks as expired the ones older
than a day. A row that a tick finds young enough is sent by it when at most
twenty-four others of its hour or an earlier one wait with it, and so never
expires unsent (`expired_rows_sent`). Behind more of them it can
(`crowded_row_expires`).
-/
namespace Ngotag.UsageExpiry
open Runs Await Metering

def toMicrosoft : Cmd → Bool
  | .submitBatchUsageEvents _ => true
  | _ => false
/-- The statements of a tick do not fail; Microsoft may answer anything or not at
    all. -/
def statement (c : Cmd) (choice : Choice) (w : World) : Option (World × Except Failure (Ret c)) :=
  if choice.fault = .none ∨ toMicrosoft c then handle 0 c choice w else none
def sentBy : Cmd → List UsageKey
  | .submitBatchUsageEvents events => events.map Prod.fst
  | _ => []
def sentKeys (performed : List Cmd) : List UsageKey := performed.flatMap sentBy
def young (now : Nat) (key : UsageKey) : Bool := now - key.usageStartTime ≤ window

/-- The world, the keys that a tick found waiting and young, and those that were
    sent. -/
structure State where
  world : World
  seen : List UsageKey
  sent : List UsageKey
inductive Act where
  | tick (time : Nat) (choices : List Choice)
  | store (key : UsageKey) (orgId : Nat) (quantity : ℚ) (sourceEventIds : List Nat)
def act (s : State) : Act → Option State
  | .tick time choices =>
    if s.world.now ≤ time then
      (alone statement submitPendingUsage choices { s.world with now := time }).map fun ended =>
        ⟨ended.world,s.seen ++ (waiting s.world.usage).filter (young time),s.sent ++ sentKeys ended.performed⟩
    else none
  | .store key orgId quantity sourceEventIds =>
    some { s with world := { s.world with usage := upsert s.world.usage key orgId quantity sourceEventIds } }
/-- A row that waits and is young has at most twenty-four others of its hour or an
    earlier one beside it. -/
def Uncrowded (s : State) : Act → Prop
  | .tick time _ => ∀ key ∈ waiting s.world.usage, young time key = true →
      ((waiting s.world.usage).filter fun other => other ≠ key ∧ other.usageStartTime ≤ key.usageStartTime).length ≤ 24
  | .store _ _ _ _ => True

theorem mem_take_of_few {α : Type} [DecidableEq α] {rank : α → Nat} {items : List α} {x : α} {n : Nat}
    (sorted : items.Pairwise fun a b => rank a ≤ rank b) (once : items.Nodup) (member : x ∈ items)
    (few : (items.filter fun y => y ≠ x ∧ rank y ≤ rank x).length < n) : x ∈ items.take n := by
  obtain ⟨before,after,rfl⟩ := List.append_of_mem member
  have earlier : before.length ≤ ((before ++ x :: after).filter fun y => y ≠ x ∧ rank y ≤ rank x).length := by
    have all : before.filter (fun y => decide (y ≠ x ∧ rank y ≤ rank x)) = before := by
      refine List.filter_eq_self.mpr fun y inside => decide_eq_true ⟨?_,?_⟩
      · rintro rfl
        exact (List.nodup_append.mp once).2.2 y inside y List.mem_cons_self rfl
      · exact (List.pairwise_append.mp sorted).2.2 y inside x List.mem_cons_self
    rw [List.filter_append,List.length_append,all]
    exact Nat.le_add_right _ _
  rw [List.take_append]
  refine List.mem_append_right _ ?_
  obtain ⟨k,extra⟩ : ∃ k, n - before.length = k + 1 := ⟨n - before.length - 1,by omega⟩
  rw [extra,List.take_succ_cons]
  exact List.mem_cons_self

section
variable {w : World} {key : UsageKey}

theorem waiting_nodup (usage : Usage) : (waiting usage).Nodup := usage.keys_nodup.filter _
theorem waiting_lookup {usage : Usage} (member : key ∈ waiting usage) : ∃ row, usage.lookup key = some row := by
  have any := (List.mem_filter.mp member).2
  cases found : usage.lookup key with
  | none => rw [found] at any; cases any
  | some row => exact ⟨row,rfl⟩

variable {choices : List Choice} {ended : Ended Cmd World Choice Failure Unit}
theorem setStatuses_ok {updates : List (UsageKey × UsageStatus)}
    (present : ∀ update ∈ updates, (w.usage.lookup update.1).isSome)
    (ran : alone statement (forEach setStatus updates) choices w = some ended) : ended.result = .ok () := by
  induction updates generalizing w choices ended with
  | nil => cases ran; rfl
  | cons update rest ih =>
    obtain ⟨row,found⟩ := Option.isSome_iff_exists.mp (present update List.mem_cons_self)
    have marked : ∀ {choice after answer}, statement (.updateUsageEventStatus update.1 update.2) choice w =
        some (after,answer) → answer = .ok () ∧
          after = { w with usage := w.usage.insert update.1 { row with status := update.2 } } := by
      intro choice after answer handled
      rw [statement] at handled
      split at handled
      · rename_i fine
        have clean : choice.fault = .none := by simpa [toMicrosoft] using fine
        simp only [handle,found,writes,clean] at handled
        cases handled
        exact ⟨rfl,rfl⟩
      · cases handled
    rcases alone_seq ran with ⟨first,value,last,begins,result,later,rfl⟩ | ⟨first,error,begins,result,rfl⟩
    · obtain ⟨_,_,after,answer,_,handled,rfl⟩ := alone_call begins
      obtain ⟨rfl,rfl⟩ := marked handled
      change last.result = .ok ()
      refine ih ?_ later
      intro other member
      have before := present other (List.mem_cons_of_mem _ member)
      by_cases same : other.1 = update.1
      · rw [same]
        simp
      · simpa [AList.lookup_insert_ne same] using before
    · obtain ⟨_,_,after,answer,_,handled,rfl⟩ := alone_call begins
      obtain ⟨rfl,_⟩ := marked handled
      cases result

theorem mem_sentKeys_append {first second : List Cmd} :
    key ∈ sentKeys (first ++ second) ↔ key ∈ sentKeys first ∨ key ∈ sentKeys second := by
  simp [sentKeys]
theorem batches_single {α : Type} {rows : List α} (some_ : rows ≠ []) (few : rows.length ≤ 25) :
    batches rows = [rows] := by
  have positive : 0 < rows.length := List.length_pos_iff.mpr some_
  have one : (rows.length + MAX_BATCH_SIZE - 1) / MAX_BATCH_SIZE = 1 := by
    simp only [MAX_BATCH_SIZE]
    omega
  rw [batches,one]
  simp only [List.range_one,List.map_cons,List.map_nil,Nat.mul_zero,List.drop_zero,List.cons.injEq,and_true]
  exact List.take_of_length_le few

theorem submitBatch_sends {batch : List (UsageKey × UsageRow)} {row : UsageRow} (member : (key,row) ∈ batch)
    (ran : alone statement (submitBatch batch) choices w = some ended) : key ∈ sentKeys ended.performed := by
  have sends : ∀ rest,
      key ∈ sentKeys (.submitBatchUsageEvents (batch.map fun event => (event.1,event.2.quantity)) :: rest) := by
    intro rest
    simp only [sentKeys,List.flatMap_cons,sentBy,List.map_map,List.mem_append]
    exact .inl (List.mem_map.mpr ⟨(key,row),member,rfl⟩)
  cases choices with
  | nil => cases ran
  | cons choice rest =>
    rcases alone_step ran with ⟨_,_,last,_,_,rfl⟩ | ⟨_,_,_,rfl⟩
    · exact sends last.performed
    · exact sends []

theorem submitListed_sends {listed : List (UsageKey × UsageRow)} (row : UsageRow) (few : listed.length ≤ 25)
    (present : ∀ event ∈ listed, (w.usage.lookup event.1).isSome) (member : (key,row) ∈ listed)
    (fits : young w.now key = true) (ran : alone statement (submitListed listed) choices w = some ended) :
    key ∈ sentKeys ended.performed := by
  rw [submitListed,if_neg (List.ne_nil_of_mem member)] at ran
  cases choices with
  | nil => cases ran
  | cons choice rest =>
    rcases alone_step ran with ⟨after,now,last,timed,ran,rfl⟩ | ⟨_,_,timed,_⟩
    swap
    · rw [statement] at timed
      split at timed <;> cases timed
    have current : after = w ∧ now = w.now := by
      rw [statement] at timed
      split at timed <;> cases timed
      exact ⟨rfl,rfl⟩
    obtain ⟨rfl,rfl⟩ := current
    change key ∈ sentKeys ([.now] ++ last.performed)
    refine mem_sentKeys_append.mpr (.inr ?_)
    rcases alone_seq ran with ⟨first,_,second,_,_,later,rfl⟩ | ⟨first,_,begins,failed,_⟩
    swap
    · have marked : first.result = .ok () := by
        refine setStatuses_ok ?_ begins
        intro update inside
        obtain ⟨event,from_,rfl⟩ := List.mem_map.mp inside
        exact present event (List.mem_of_mem_filter from_)
      rw [marked] at failed
      cases failed
    refine mem_sentKeys_append.mpr (.inr ?_)
    have eligible : (key,row) ∈ listed.filter fun event => after.now - event.1.usageStartTime ≤ window :=
      List.mem_filter.mpr ⟨member,fits⟩
    rw [batches_single (List.ne_nil_of_mem eligible) ((List.length_filter_le _ _).trans few)] at later
    rcases alone_seq later with ⟨third,_,fourth,begins,_,_,rfl⟩ | ⟨third,_,begins,_,rfl⟩
    · exact mem_sentKeys_append.mpr (.inl (submitBatch_sends eligible begins))
    · have sends := submitBatch_sends eligible begins
      exact sends

theorem tick_sends (member : key ∈ waiting w.usage) (fits : young w.now key = true)
    (few : ((waiting w.usage).filter fun other => other ≠ key ∧ other.usageStartTime ≤ key.usageStartTime).length ≤ 24)
    (ran : alone statement submitPendingUsage choices w = some ended) : key ∈ sentKeys ended.performed := by
  cases choices with
  | nil => cases ran
  | cons choice rest =>
    have listing : ∀ {after answer}, statement .listPendingUsageEvents choice w = some (after,answer) → after = w ∧
        choice.keys.Perm (waiting w.usage) ∧ choice.keys.Pairwise (fun a b => a.usageStartTime ≤ b.usageStartTime) ∧
        answer = .ok ((choice.keys.take 25).filterMap fun key => (w.usage.lookup key).map fun row => (key,row)) := by
      intro after answer handled
      rw [statement] at handled
      split at handled
      · rename_i fine
        have clean : choice.fault = .none := by simpa [toMicrosoft] using fine
        simp only [handle] at handled
        split at handled
        · rename_i ordered
          simp only [reads,clean,if_true] at handled
          cases handled
          exact ⟨rfl,ordered.1,ordered.2,rfl⟩
        · cases handled
      · cases handled
    rcases alone_step ran with ⟨after,listed,last,handled,ran,rfl⟩ | ⟨_,_,handled,_⟩
    swap
    · obtain ⟨_,_,_,impossible⟩ := listing handled
      cases impossible
    obtain ⟨rfl,same,sorted,answered⟩ := listing handled
    cases answered
    change key ∈ sentKeys ([.listPendingUsageEvents] ++ last.performed)
    refine mem_sentKeys_append.mpr (.inr ?_)
    have first : key ∈ choice.keys.take 25 := by
      refine mem_take_of_few sorted (same.nodup_iff.mpr (waiting_nodup _)) (same.mem_iff.mpr member) ?_
      rw [(same.filter _).length_eq]
      exact Nat.lt_succ_of_le few
    obtain ⟨row,found⟩ := waiting_lookup member
    refine submitListed_sends row ?_ ?_ ?_ fits ran
    · exact (List.length_filterMap_le _ _).trans (List.length_take_le _ _)
    · intro event inside
      obtain ⟨_,_,looked⟩ := List.mem_filterMap.mp inside
      obtain ⟨_,found',rfl⟩ := Option.map_eq_some_iff.mp looked
      rw [found']
      rfl
    · exact List.mem_filterMap.mpr ⟨key,first,by rw [found]; rfl⟩

end

/-- Every row that was seen was sent. -/
def Sent (s : State) : Prop := ∀ key ∈ s.seen, key ∈ s.sent

theorem act_sent {s next : State} {a : Act} (sent : Sent s) (uncrowded : Uncrowded s a) (taken : act s a = some next) :
    Sent next := by
  cases a with
  | tick time choices =>
    rw [act] at taken
    split at taken
    · obtain ⟨ended,ran,rfl⟩ := Option.map_eq_some_iff.mp taken
      intro key member
      rcases List.mem_append.mp member with before | now
      · exact List.mem_append_left _ (sent key before)
      · obtain ⟨waits,fits⟩ := List.mem_filter.mp now
        exact List.mem_append_right _
            (tick_sends (w := { s.world with now := time }) waits fits (uncrowded key waits fits) ran)
    · cases taken
  | store key orgId quantity sourceEventIds =>
    cases taken
    exact sent

/-- Where young rows are not crowded out, a row that a tick found waiting and young
    does not expire without having been sent. -/
theorem expired_rows_sent (w : World) {actions : List Act} {s : State} (reached : run act ⟨w,[],[]⟩ actions = some s)
    (uncrowded : Along act Uncrowded ⟨w,[],[]⟩ actions) :
    ∀ key row, s.world.usage.lookup key = some row → row.status = .expired → key ∈ s.seen → key ∈ s.sent := by
  have sent : Sent s := by
    refine run_keeps_along (fun _ _ _ sent meets taken => act_sent sent meets taken) ?_ uncrowded reached
    rintro _ ⟨⟩
  exact fun key _ _ _ seen => sent key seen

instance (s : State) : (a : Act) → Decidable (Uncrowded s a)
  | .tick time _ => inferInstanceAs (Decidable (∀ key ∈ waiting s.world.usage, young time key = true →
      ((waiting s.world.usage).filter fun other => other ≠ key ∧ other.usageStartTime ≤ key.usageStartTime).length ≤ 24))
  | .store _ _ _ _ => isTrue trivial
def midnight (subscriptions : Nat) : List UsageKey :=
  (List.range subscriptions).map fun subscription => ⟨subscription,.issuanceTxn,0⟩
/-- The row of another subscription, an hour later. -/
def oneAm : UsageKey := ⟨1000,.issuanceTxn,3600000⟩
/-- The rows wait; it is ten minutes to one on the next day. -/
def backlog (subscriptions : Nat) : World :=
  ⟨∅,fun _ _ => none,[],AList.insert oneAm ⟨7,1,.pending,[0]⟩
    ((midnight subscriptions).foldl (fun usage key => usage.insert key ⟨8,1,.failed,[1]⟩) ∅),∅,89400000,none⟩
/-- The rows come in the given order; Microsoft refuses. -/
def refused (keys : List UsageKey) : Choice := ⟨.none,0,[],keys,[]⟩
def refusedTick (time statements : Nat) (keys : List UsageKey) :
    Act := .tick time (List.replicate statements (refused keys))
/-- Ten rows are ahead: the late one is sent at once, and expires later. -/
def shortQueue : List Act :=
  [refusedTick 89400000 14 (midnight 10 ++ [oneAm]),refusedTick 90600000 3 [oneAm]]
/-- Fifty rows are ahead, for two ticks. -/
def longQueue : List Act :=
  [refusedTick 89400000 27 (midnight 50 ++ [oneAm]),refusedTick 90000000 27 ((midnight 50).drop 25 ++ [oneAm]),
    refusedTick 90600000 3 [oneAm]]

theorem expired_rows_sent_short : ∃ s, run act ⟨backlog 10,[],[]⟩ shortQueue = some s ∧
    (∃ row, s.world.usage.lookup oneAm = some row ∧ row.status = .expired) ∧ oneAm ∈ s.sent := by
  have runs : (run act ⟨backlog 10,[],[]⟩ shortQueue).map (fun s => (s.world.usage.lookup oneAm,s.seen)) =
      some (some ⟨7,1,.expired,[0]⟩,[oneAm]) := by decide +kernel
  obtain ⟨s,reached,facts⟩ := Option.map_eq_some_iff.mp runs
  obtain ⟨row,seen⟩ := Prod.mk.inj facts
  refine ⟨s,reached,⟨_,row,rfl⟩,?_⟩
  exact expired_rows_sent (backlog 10) reached (by decide +kernel) oneAm _ row rfl
      (by rw [seen]; exact List.mem_singleton_self _)
def Act.tickTime : Act → Option Nat
  | .tick time _ => some time
  | .store _ _ _ _ => none
def tickTimes (actions : List Act) : List Nat := actions.filterMap Act.tickTime
/-- Every ten minutes, from a time on while a row is at most a day old, a tick runs. -/
def EveryTenMinutes (actions : List Act) (start : Nat) (key : UsageKey) : Prop :=
  ∀ time, start ≤ time → time + 600000 ≤ key.usageStartTime + window →
    ∃ tick ∈ tickTimes actions, time ≤ tick ∧ tick ≤ time + 600000

/-- The late row waits for two ticks behind the others and has expired by the third. -/
theorem crowded_row_expires : ¬∀ (w : World) (actions : List Act) (s : State), run act ⟨w,[],[]⟩ actions = some s →
    ∀ key row, key ∈ waiting w.usage → EveryTenMinutes actions w.now key → key ∈ s.seen →
      s.world.usage.lookup key = some row → row.status = .expired → key ∈ s.sent := by
  intro always
  have runs : (run act ⟨backlog 50,[],[]⟩ longQueue).map (fun s => (s.world.usage.lookup oneAm,s.seen,s.sent)) =
      some (some ⟨7,1,.expired,[0]⟩,[oneAm,oneAm],[]) := by decide +kernel
  obtain ⟨s,reached,facts⟩ := Option.map_eq_some_iff.mp runs
  obtain ⟨row,facts⟩ := Prod.mk.inj facts
  obtain ⟨seen,sent⟩ := Prod.mk.inj facts
  have regular : EveryTenMinutes longQueue (backlog 50).now oneAm := by
    intro time from_ until_
    refine ⟨90000000,by decide,?_⟩
    simp only [backlog,oneAm,window] at from_ until_
    omega
  have wasSent := always (backlog 50) longQueue s reached oneAm _ (by decide +kernel) regular
      (by rw [seen]; exact List.mem_cons_self) row rfl
  rw [sent] at wasSent
  cases wasSent

end Ngotag.UsageExpiry
