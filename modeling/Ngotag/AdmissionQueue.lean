import Mathlib.Data.Finset.Card
import Mathlib.Data.Rat.Defs
import Mathlib.Algebra.Order.Ring.Unbundled.Rat

/-!
`IssuanceAdmissionQueue`: a number of slots, and callers that wait for one, each
until a deadline. A caller that leaves hands its slot to the first waiter that
is still in time. Against the set of callers that hold a slot (`Accounts`) the
queue counts right whatever is called.
-/
namespace Ngotag.AdmissionQueue

/-- A reading of `performance.now()`, in milliseconds. -/
abbrev Time := ℚ
structure Waiter where
  caller : Nat
  deadline : Time
/-- The queue, and for each waiter that is settled whether it was resolved. -/
structure Admission where
  active : Int
  pending : List Waiter
  settled : Nat → Option Bool
def Admission.empty : Admission := ⟨0,[],fun _ => none⟩

inductive Refusal where
  /-- `Issuance capacity wait exceeded; no offer was dispatched` -/
  | timeout
  /-- `Issuance admission queue is full; no offer was dispatched` -/
  | full
  deriving DecidableEq
def Admission.waiting (q : Admission) : List Nat := q.pending.map Waiter.caller
/-- `acquire` until it returns or awaits its promise; the answer is whether it
    has a slot at once. -/
def Admission.acquire (capacity maxPending : Nat) (now deadline : Time) (caller : Nat) (q : Admission) :
    Except Refusal (Admission × Bool) :=
  if deadline ≤ now then .error .timeout
  else if q.active < capacity then .ok ({ q with active := q.active + 1 },true)
  else if maxPending ≤ q.pending.length then .error .full
  else .ok ({ q with pending := q.pending ++ [⟨caller,deadline⟩] },false)
def settle (settled : Nat → Option Bool) (caller : Nat) (resolved : Bool) : Nat → Option Bool :=
  fun other => if other = caller then some resolved else settled other
/-- The loop of `release`; the answer is the waiter that got the slot. -/
def releaseTo (now : Time) (active : Int) (settled : Nat → Option Bool) : List Waiter → Admission × Option Nat
  | [] => (⟨active - 1,[],settled⟩,none)
  | waiter :: rest =>
    if waiter.deadline ≤ now then releaseTo now active (settle settled waiter.caller false) rest
    else (⟨active,rest,settle settled waiter.caller true⟩,some waiter.caller)
def Admission.release (now : Time) (q : Admission) : Admission × Option Nat :=
  releaseTo now q.active q.settled q.pending
def Admission.expire (caller : Nat) (q : Admission) : Admission :=
  if caller ∈ q.waiting then
    { q with pending := q.pending.filter fun waiter => waiter.caller ≠ caller, settled := settle q.settled caller false }
  else q
/-- The queue counts the holders of slots, and no waiter waits twice or holds one. -/
structure Accounts (q : Admission) (holders : Finset Nat) : Prop where
  count : q.active = holders.card
  distinct : q.waiting.Nodup
  apart : ∀ caller ∈ q.waiting, caller ∉ holders
  unsettled : ∀ caller ∈ q.waiting, q.settled caller = none
structure Place where
  waiting : Bool
  holding : Bool
  settled : Option Bool

/-- Where a caller stands. -/
def place (q : Admission) (holders : Finset Nat) (caller : Nat) : Place :=
  ⟨caller ∈ q.waiting,caller ∈ holders,q.settled caller⟩
def Place.outside : Place := ⟨false,false,none⟩
def Place.seated : Place := ⟨false,true,none⟩
def Place.queued : Place := ⟨true,false,none⟩
def Place.refused : Place := ⟨false,false,some false⟩
def Place.admitted : Place := ⟨false,true,some true⟩
/-- What one operation of another call may do to a place. -/
def Place.Moves (a b : Place) : Prop := b = a ∨ a = .queued ∧ (b = .refused ∨ b = .admitted)
theorem moves_refl (a : Place) : a.Moves a := .inl rfl
theorem moves_trans {a b c : Place} (first : a.Moves b) (second : b.Moves c) : a.Moves c := by
  rcases first with rfl | ⟨rfl,rfl | rfl⟩
  · exact second
  · rcases second with rfl | ⟨waits,-⟩
    · exact .inr ⟨rfl,.inl rfl⟩
    · cases waits
  · rcases second with rfl | ⟨waits,-⟩
    · exact .inr ⟨rfl,.inr rfl⟩
    · cases waits
theorem moves_holding {a b : Place} (moved : a.Moves b) (holding : a.holding = true) : b = a := by
  rcases moved with rfl | ⟨rfl,-⟩
  · rfl
  · cases holding
theorem moves_outside {b : Place} (moved : Place.outside.Moves b) : b = .outside := by
  rcases moved with rfl | ⟨waits,-⟩
  · rfl
  · cases waits
def handed (holders : Finset Nat) (caller : Nat) : Option Nat → Finset Nat
  | none => holders.erase caller
  | some next => insert next (holders.erase caller)

variable {q : Admission} {holders : Finset Nat}
theorem accounts_empty : Accounts .empty ∅ := ⟨rfl,List.nodup_nil,by rintro _ ⟨⟩,by rintro _ ⟨⟩⟩

variable {caller : Nat}
theorem acquire_cases {capacity maxPending : Nat} {now deadline : Time} {after : Admission} {seat : Bool}
    (acquired : q.acquire capacity maxPending now deadline caller = .ok (after,seat)) :
    (seat = true ∧ q.active < capacity ∧ after = { q with active := q.active + 1 }) ∨
      (seat = false ∧ capacity ≤ q.active ∧ q.pending.length < maxPending ∧
        after = { q with pending := q.pending ++ [⟨caller,deadline⟩] }) := by
  simp only [Admission.acquire] at acquired
  split at acquired
  · cases acquired
  split at acquired
  · rename_i free
    cases acquired
    exact .inl ⟨rfl,free,rfl⟩
  split at acquired
  · cases acquired
  · rename_i busy room
    cases acquired
    exact .inr ⟨rfl,not_lt.mp busy,not_le.mp room,rfl⟩

theorem accounts_acquire {capacity maxPending : Nat} {now deadline : Time} {after : Admission}
    {seat : Bool} (accounts : Accounts q holders) (outside : place q holders caller = .outside)
    (acquired : q.acquire capacity maxPending now deadline caller = .ok (after,seat)) :
    Accounts after (if seat then insert caller holders else holders) ∧
      place after (if seat then insert caller holders else holders) caller = (if seat then .seated else .queued) ∧
      ∀ other ≠ caller, place after (if seat then insert caller holders else holders) other = place q holders other := by
  simp only [place,Place.outside,Place.mk.injEq,decide_eq_false_iff_not] at outside
  obtain ⟨unqueued,free,unsettled⟩ := outside
  rcases acquire_cases acquired with ⟨rfl,-,rfl⟩ | ⟨rfl,-,-,rfl⟩
  · refine ⟨⟨?_,accounts.distinct,?_,accounts.unsettled⟩,?_,?_⟩
    · simp [Finset.card_insert_of_notMem free,accounts.count]
    · intro other waits
      simp only [if_true,Finset.mem_insert,not_or]
      exact ⟨fun same => unqueued (same ▸ waits),accounts.apart other waits⟩
    · simp [place,Place.seated,unsettled,show caller ∉ Admission.waiting { q with active := q.active + 1 } from unqueued]
    · intro other different
      simp [place,different,Admission.waiting]
  · have joined : Admission.waiting { q with pending := q.pending ++ [⟨caller,deadline⟩] } = q.waiting ++ [caller] := by
      simp [Admission.waiting]
    refine ⟨⟨accounts.count,?_,?_,?_⟩,?_,?_⟩
    · rw [joined]
      exact List.nodup_append.mpr ⟨accounts.distinct,List.nodup_singleton _,
        fun a first b second => by rw [List.mem_singleton.mp second]; rintro rfl; exact unqueued first⟩
    · rw [joined]
      intro other waits
      rcases List.mem_append.mp waits with waits | same
      · exact accounts.apart other waits
      · rw [List.mem_singleton.mp same]; exact free
    · rw [joined]
      intro other waits
      rcases List.mem_append.mp waits with waits | same
      · exact accounts.unsettled other waits
      · rw [List.mem_singleton.mp same]; exact unsettled
    · simp [place,Place.queued,joined,free,unsettled]
    · intro other different
      simp [place,joined,different]

variable {settled : Nat → Option Bool}
theorem accounts_releaseTo {now : Time} {active : Int} {pending : List Waiter}
    (holds : caller ∈ holders) (accounts : Accounts ⟨active,pending,settled⟩ holders) :
    let next := releaseTo now active settled pending
    Accounts next.1 (handed holders caller next.2) ∧
      place next.1 (handed holders caller next.2) caller = ⟨false,false,settled caller⟩ ∧
      ∀ other ≠ caller, (place ⟨active,pending,settled⟩ holders other).Moves
        (place next.1 (handed holders caller next.2) other) := by
  induction pending generalizing settled with
  | nil =>
    refine ⟨⟨?_,List.nodup_nil,by rintro _ ⟨⟩,by rintro _ ⟨⟩⟩,?_,?_⟩
    · have count : active = holders.card := accounts.count
      have positive := Finset.card_pos.mpr ⟨caller,holds⟩
      simp only [releaseTo,handed,Finset.card_erase_of_mem holds]
      omega
    · simp [place,releaseTo,handed,Admission.waiting]
    · intro other different
      left
      simp [place,releaseTo,handed,Admission.waiting,different]
  | cons waiter rest ih =>
    have first : waiter.caller ∈ Admission.waiting ⟨active,waiter :: rest,settled⟩ := List.mem_cons_self
    have apart := accounts.apart _ first
    have unsettled : settled waiter.caller = none := accounts.unsettled _ first
    have distinct : (waiter.caller :: rest.map Waiter.caller).Nodup := accounts.distinct
    obtain ⟨once,restDistinct⟩ := List.nodup_cons.mp distinct
    have different : caller ≠ waiter.caller := fun same => apart (same ▸ holds)
    rw [releaseTo]
    split
    · -- The waiter is late, and refused before the next one is looked at.
      have later : Accounts ⟨active,rest,settle settled waiter.caller false⟩ holders := by
        refine ⟨accounts.count,restDistinct,?_,?_⟩
        · exact fun other waits => accounts.apart other (List.mem_cons_of_mem _ waits)
        · intro other waits
          have apartFrom : other ≠ waiter.caller := fun same => once (same ▸ waits)
          simp only [settle,if_neg apartFrom]
          exact accounts.unsettled other (List.mem_cons_of_mem _ waits)
      obtain ⟨sound,own,others⟩ := ih later
      refine ⟨sound,?_,?_⟩
      · rw [own]; simp only [settle,if_neg different]
      · intro other apartFrom
        refine moves_trans ?_ (others other apartFrom)
        by_cases same : other = waiter.caller
        · subst same
          right
          refine ⟨?_,.inl ?_⟩
          · simp [place,Place.queued,Admission.waiting,apart,unsettled]
          · simpa [place,Place.refused,Admission.waiting,apart,settle] using once
        · left
          simp [place,Admission.waiting,settle,same]
    · refine ⟨⟨?_,restDistinct,?_,?_⟩,?_,?_⟩
      · have count : active = holders.card := accounts.count
        have positive := Finset.card_pos.mpr ⟨caller,holds⟩
        have absent : waiter.caller ∉ holders.erase caller := fun member => apart (Finset.mem_of_mem_erase member)
        simp only [handed,Finset.card_insert_of_notMem absent,Finset.card_erase_of_mem holds]
        omega
      · intro other waits
        have apartFrom : other ≠ waiter.caller := fun same => once (same ▸ waits)
        simp only [handed,Finset.mem_insert,apartFrom,false_or]
        exact fun member => accounts.apart other (List.mem_cons_of_mem _ waits) (Finset.mem_of_mem_erase member)
      · intro other waits
        have apartFrom : other ≠ waiter.caller := fun same => once (same ▸ waits)
        simp only [settle,if_neg apartFrom]
        exact accounts.unsettled other (List.mem_cons_of_mem _ waits)
      · have unqueued : caller ∉ rest.map Waiter.caller :=
          fun waits => accounts.apart caller (List.mem_cons_of_mem _ waits) holds
        simp only [List.mem_map,not_exists,not_and] at unqueued
        simpa [place,handed,settle,different,Admission.waiting] using unqueued
      · intro other apartFrom
        by_cases same : other = waiter.caller
        · subst same
          right
          refine ⟨?_,.inr ?_⟩
          · simp [place,Place.queued,Admission.waiting,apart,unsettled]
          · simpa [place,Place.admitted,Admission.waiting,handed,settle] using once
        · left
          simp [place,Admission.waiting,handed,settle,same,apartFrom]

theorem accounts_release (now : Time) (holds : caller ∈ holders) (accounts : Accounts q holders) :
    Accounts (q.release now).1 (handed holders caller (q.release now).2) ∧
      place (q.release now).1 (handed holders caller (q.release now).2) caller = ⟨false,false,q.settled caller⟩ ∧
      ∀ other ≠ caller, (place q holders other).Moves
        (place (q.release now).1 (handed holders caller (q.release now).2) other) :=
  accounts_releaseTo holds accounts

theorem accounts_expire (caller : Nat) (accounts : Accounts q holders) :
    Accounts (q.expire caller) holders ∧ ∀ other, (place q holders other).Moves
    (place (q.expire caller) holders other) := by
  rw [Admission.expire]
  split
  · rename_i waits
    have left : ∀ other, other ∈ Admission.waiting ⟨q.active,q.pending.filter fun waiter => waiter.caller ≠ caller,
        settle q.settled caller false⟩ ↔ other ∈ q.waiting ∧ other ≠ caller := by
      intro other
      simp only [Admission.waiting,List.mem_map,List.mem_filter,decide_eq_true_eq]
      constructor
      · rintro ⟨waiter,⟨member,different⟩,rfl⟩
        exact ⟨⟨waiter,member,rfl⟩,different⟩
      · rintro ⟨⟨waiter,member,rfl⟩,different⟩
        exact ⟨waiter,⟨member,different⟩,rfl⟩
    refine ⟨⟨accounts.count,?_,?_,?_⟩,?_⟩
    · exact accounts.distinct.sublist (List.filter_sublist.map Waiter.caller)
    · exact fun other member => accounts.apart other ((left other).mp member).1
    · intro other member
      obtain ⟨member,different⟩ := (left other).mp member
      simp only [settle,if_neg different]
      exact accounts.unsettled other member
    · intro other
      by_cases same : other = caller
      · subst same
        right
        refine ⟨?_,.inl ?_⟩
        · simp [place,Place.queued,waits,accounts.apart other waits,accounts.unsettled other waits]
        · simp only [place,Place.refused,left,settle]
          simp [accounts.apart other waits]
      · left
        simp only [place,left,settle]
        simp [same]
  · exact ⟨accounts,fun other => moves_refl _⟩

theorem releaseTo_active {now : Time} {active : Int} (pending : List Waiter) :
    let next := releaseTo now active settled pending
    (next.2.isSome ∧ next.1.active = active) ∨ (next.2 = none ∧ next.1.pending = [] ∧ next.1.active = active - 1) := by
  induction pending generalizing settled with
  | nil => exact .inr ⟨rfl,rfl,rfl⟩
  | cons waiter rest ih =>
    rw [releaseTo]
    split
    · exact ih
    · exact .inl ⟨rfl,rfl⟩
theorem releaseTo_order {now : Time} {active : Int} (pending : List Waiter) :
    let next := releaseTo now active settled pending
    (next.2.toList ++ next.1.waiting).Sublist (pending.map Waiter.caller) := by
  induction pending generalizing settled with
  | nil => exact List.Sublist.refl _
  | cons waiter rest ih =>
    rw [releaseTo]
    split
    · exact ih.trans (List.sublist_cons_self _ _)
    · exact List.Sublist.refl _
theorem expire_order (caller : Nat) : (q.expire caller).waiting.Sublist q.waiting := by
  rw [Admission.expire]
  split
  · exact List.filter_sublist.map Waiter.caller
  · exact List.Sublist.refl _
theorem expire_active (caller : Nat) : (q.expire caller).active = q.active := by
  rw [Admission.expire]
  split <;> rfl
theorem expire_settled (waits : caller ∈ q.waiting) : (q.expire caller).settled caller = some false := by
  rw [Admission.expire,if_pos waits]
  simp [settle]
theorem release_active (now : Time) :
    ((q.release now).2.isSome ∧ (q.release now).1.active = q.active) ∨
      ((q.release now).2 = none ∧ (q.release now).1.pending = [] ∧ (q.release now).1.active = q.active - 1) :=
  releaseTo_active q.pending
theorem release_order (now : Time) : ((q.release now).2.toList ++ (q.release now).1.waiting).Sublist q.waiting :=
  releaseTo_order q.pending
theorem pending_le {fewer : Admission} (sub : fewer.waiting.Sublist q.waiting) :
    fewer.pending.length ≤ q.pending.length := by
  simpa [Admission.waiting] using sub.length_le
theorem pending_nil {fewer : Admission} (sub : fewer.waiting.Sublist q.waiting) (nobody : q.pending = []) :
    fewer.pending = [] := by
  have none := pending_le sub
  rw [nobody] at none
  exact List.eq_nil_of_length_eq_zero (Nat.le_zero.mp none)

end Ngotag.AdmissionQueue
