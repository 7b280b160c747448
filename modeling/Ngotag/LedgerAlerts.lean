import Ngotag.Runs
import Mathlib.Logic.Function.Basic

/-!
The ledger alerts of one `UtilitiesService`: what `handleLedgerAlert` checks before it reads the configuration of the
platform, and the flow that it starts afterwards. Between the check and the start another call can start a flow
(`two_flows`); where the checks still hold when the configuration arrives, the alerts are throttled
(`throttled_along`).
-/
namespace Ngotag.LedgerAlerts
open Runs

structure EmailDto where
  emailFrom : String
  emailTo : List String
  emailSubject : String
  emailText : String
  emailHtml : String

inductive Stage where
  /-- An alert was sent a short time ago, or one is being sent. -/
  | skipped
  | getPlatformConfigDetails (emailDto : EmailDto)
  | threw
  | sendEmail (attempt : Nat) (emailDto : EmailDto)
  /-- The timer fires after a while, in which the clock may stand still. -/
  | setTimeout (attempt : Nat) (emailDto : EmailDto)
  /-- `sendWithRetry` has returned; what is to be done `finally` is not done yet. -/
  | settled
  | cleared

def Stage.sends : Stage → Bool
  | .sendEmail _ _ => true
  | .setTimeout _ _ => true
  | _ => false
def Stage.active : Stage → Bool
  | .settled => true
  | stage => stage.sends
structure State where
  /-- `Date.now()` -/
  now : Nat
  lastAlertTime : Option Nat
  isSendingAlert : Bool
  calls : Nat → Option Stage
  /-- When an alert was sent successfully, the latest first. -/
  alerts : List Nat
def State.initial (now : Nat) : State := ⟨now,none,false,fun _ => none,[]⟩
def retries : Nat := 3
def twoHours : Nat := 2 * 60 * 60 * 1000
/-- `this.lastAlertTime && now - this.lastAlertTime < 2 * 60 * 60 * 1000` -/
def State.recent (s : State) : Bool := s.lastAlertTime.any fun time => time ≠ 0 && s.now - time < twoHours
def State.admits (s : State) : Bool := !s.recent && !s.isSendingAlert
/-- What `platform_config` answers. -/
inductive Found where
  | config (emailFrom : String)
  | nothing
  | throws
inductive Action where
  | tick (ms : Nat)
  | handleLedgerAlert (call : Nat) (emailDto : EmailDto)
  | configured (call : Nat) (found : Found)
  /-- `sendEmail` resolves to a value, or throws. -/
  | sent (call : Nat) (result : Option Bool)
  | timeout (call : Nat)
  | finally_ (call : Nat)
def State.goes (s : State) (call : Nat) (stage : Stage) : State :=
  { s with calls := Function.update s.calls call (some stage) }
def State.retry (s : State) (call attempt : Nat) (emailDto : EmailDto) : State :=
  s.goes call (if attempt = retries then .settled else .setTimeout attempt emailDto)

def step (s : State) : Action → Option State
  | .tick ms => some { s with now := s.now + ms }
  | .handleLedgerAlert call emailDto =>
    match s.calls call with
    | some _ => none
    | none => some (s.goes call (if s.admits then .getPlatformConfigDetails emailDto else .skipped))
  | .configured call found =>
    match s.calls call with
    | some (.getPlatformConfigDetails emailDto) =>
      match found with
      | .config emailFrom =>
        some ({ s with isSendingAlert := true }.goes call (.sendEmail 1 { emailDto with emailFrom := emailFrom }))
      | _ => some (s.goes call .threw)
    | _ => none
  | .sent call result =>
    match s.calls call with
    | some (.sendEmail attempt emailDto) =>
      if result = some true then
        some ({ s with lastAlertTime := some s.now, alerts := s.now :: s.alerts }.goes call .settled)
      else some (s.retry call attempt emailDto)
    | _ => none
  | .timeout call =>
    match s.calls call with
    | some (.setTimeout attempt emailDto) => some (s.goes call (.sendEmail (attempt + 1) emailDto))
    | _ => none
  | .finally_ call =>
    match s.calls call with
    | some .settled => some ({ s with isSendingAlert := false }.goes call .cleared)
    | _ => none

def State.active (s : State) (call : Nat) : Prop := ∃ stage, s.calls call = some stage ∧ stage.active
def State.quiet (s : State) : Prop := ∀ time ∈ s.alerts, time + twoHours ≤ s.now

/-- One flow at a time, two hours between alerts, and the flag is set while there is a flow. -/
structure Throttled (s : State) : Prop where
  single : ∀ first second, s.active first → s.active second → first = second
  apart : s.alerts.Pairwise fun later earlier => earlier + twoHours ≤ later
  flag : s.isSendingAlert = true ↔ ∃ call, s.active call
  reads : ∀ call emailDto, s.calls call = none → (∀ other, ¬s.active other) → s.quiet →
    ∃ next, step s (.handleLedgerAlert call emailDto) = some next ∧
      next.calls call = some (.getPlatformConfigDetails emailDto)
  starts : ∀ call emailDto emailFrom, s.calls call = some (.getPlatformConfigDetails emailDto) →
    ∃ next, step s (.configured call (.config emailFrom)) = some next ∧
      next.calls call = some (.sendEmail 1 { emailDto with emailFrom := emailFrom })

/-- When the configuration arrives both checks still pass, and the clock has left its zero when an alert is sent,
    which as a time is falsy. -/
def Meets (s : State) : Action → Prop
  | .configured _ (.config _) => s.admits = true
  | .sent _ (some true) => s.now ≠ 0
  | _ => True
instance (s : State) (a : Action) : Decidable (Meets s a) := by
  unfold Meets
  split <;> infer_instance
/-- What carries `Throttled`. -/
structure Inv (s : State) : Prop where
  single : ∀ first second, s.active first → s.active second → first = second
  flag : s.isSendingAlert = true ↔ ∃ call, s.active call
  apart : s.alerts.Pairwise fun later earlier => earlier + twoHours ≤ later
  last : s.lastAlertTime = s.alerts.head?
  past : ∀ time ∈ s.alerts, time ≠ 0
  /-- While a flow may still send, no alert is in its way. -/
  armed : ∀ call stage, s.calls call = some stage → stage.sends → s.quiet

section
variable {s next : State} {call : Nat} {stage : Stage}

theorem goes_calls (other : Nat) :
    (s.goes call stage).calls other = if other = call then some stage else s.calls other := by
  change Function.update s.calls call (some stage) other = _
  rw [Function.update_apply]
theorem active_goes {other : Nat} : (s.goes call stage).active other ↔
    if other = call then stage.active = true else s.active other := by
  unfold State.active
  rw [goes_calls]
  split
  · simp
  · rfl
theorem active_iff {old : Stage} (at_ : s.calls call = some old) : s.active call ↔ old.active = true := by
  unfold State.active
  rw [at_]
  simp

theorem recent_iff (inv : Inv s) : s.recent = false ↔ s.quiet := by
  unfold State.recent State.quiet
  rw [inv.last]
  cases sent : s.alerts with
  | nil => simp
  | cons latest earlier =>
    have nonzero := inv.past latest (sent ▸ List.mem_cons_self)
    have apart := inv.apart
    rw [sent,List.pairwise_cons] at apart
    have two : twoHours = 7200000 := rfl
    simp only [List.head?_cons,Option.any_some,nonzero,ne_eq,not_false_eq_true,decide_true,Bool.true_and,
      decide_eq_false_iff_not]
    constructor
    · intro old time listed
      rcases List.mem_cons.mp listed with rfl | before
      · omega
      · have := apart.1 time before
        omega
    · intro quiet recent
      have := quiet latest List.mem_cons_self
      omega

theorem inv_goes (inv : Inv s) (still : stage.active = true ↔ s.active call) (armed : stage.sends = true → s.quiet) :
    Inv (s.goes call stage) := by
  have same : ∀ other, (s.goes call stage).active other ↔ s.active other := by
    intro other
    rw [active_goes]
    split
    · rename_i here
      subst here
      exact still
    · rfl
  refine ⟨fun first second one two => ?_,?_,inv.apart,inv.last,inv.past,fun other moved at_ sends => ?_⟩
  · exact inv.single first second ((same first).mp one) ((same second).mp two)
  · exact inv.flag.trans (exists_congr fun other => (same other).symm)
  · rw [goes_calls] at at_
    split at at_
    · cases at_
      exact armed sends
    · exact inv.armed other moved at_ sends

theorem inv_idle (inv : Inv s) (idle : ¬s.active call) (still : stage.active = false) : Inv (s.goes call stage) := by
  refine inv_goes inv (iff_of_false (Bool.eq_false_iff.mp still) idle) fun sends => ?_
  cases stage <;> cases still <;> cases sends
theorem none_active (inv : Inv s) (admitted : s.admits = true) (other : Nat) : ¬s.active other := by
  intro busy
  have flag := inv.flag.mpr ⟨other,busy⟩
  simp [State.admits,flag] at admitted

theorem inv_started (inv : Inv s) (admitted : s.admits = true) (emailDto : EmailDto) :
    Inv ({ s with isSendingAlert := true }.goes call (.sendEmail 1 emailDto)) := by
  have only : ∀ other, ({ s with isSendingAlert := true }.goes call (.sendEmail 1 emailDto)).active other ↔
      other = call := by
    intro other
    rw [active_goes]
    split
    · rename_i here
      exact iff_of_true rfl here
    · rename_i apart
      exact iff_of_false (none_active inv admitted other) apart
  have quiet : s.quiet := (recent_iff inv).mp (by
    simp only [State.admits,Bool.and_eq_true,Bool.not_eq_true'] at admitted
    exact admitted.1)
  refine ⟨fun first second one two => ?_,?_,inv.apart,inv.last,inv.past,fun _ _ _ _ => quiet⟩
  · rw [(only first).mp one,(only second).mp two]
  · exact iff_of_true rfl ⟨call,(only call).mpr rfl⟩

theorem inv_sent (inv : Inv s) {attempt : Nat} {emailDto : EmailDto}
    (at_ : s.calls call = some (.sendEmail attempt emailDto))
    (started : s.now ≠ 0) :
    Inv ({ s with lastAlertTime := some s.now, alerts := s.now :: s.alerts }.goes call .settled) := by
  have quiet := inv.armed call _ at_ rfl
  have busy : s.active call := (active_iff at_).mpr rfl
  have same : ∀ other,
      ({ s with lastAlertTime := some s.now, alerts := s.now :: s.alerts }.goes call .settled).active other ↔
      s.active other := by
    intro other
    rw [active_goes]
    split
    · rename_i here
      subst here
      exact iff_of_true rfl busy
    · rfl
  refine ⟨fun first second one two => ?_,?_,?_,rfl,?_,fun other moved at_' sends => ?_⟩
  · exact inv.single first second ((same first).mp one) ((same second).mp two)
  · exact inv.flag.trans (exists_congr fun other => (same other).symm)
  · exact List.pairwise_cons.mpr ⟨quiet,inv.apart⟩
  · intro time listed
    rcases List.mem_cons.mp listed with rfl | before
    · exact started
    · exact inv.past time before
  · rw [goes_calls] at at_'
    split at at_'
    · cases at_'
      cases sends
    · rename_i apart
      have active : s.active other := ⟨moved,at_',by cases moved <;> first | rfl | cases sends⟩
      exact absurd (inv.single other call active busy) apart

theorem inv_cleared (inv : Inv s) (at_ : s.calls call = some .settled) :
    Inv ({ s with isSendingAlert := false }.goes call .cleared) := by
  have busy : s.active call := (active_iff at_).mpr rfl
  have none_ : ∀ other, ¬({ s with isSendingAlert := false }.goes call .cleared).active other := by
    intro other
    rw [active_goes]
    split
    · exact Bool.false_ne_true
    · rename_i apart
      exact fun active => apart (inv.single other call active busy)
  refine ⟨fun first _ one => absurd one (none_ first),?_,inv.apart,inv.last,inv.past,fun other moved at_' sends => ?_⟩
  · exact iff_of_false Bool.false_ne_true fun ⟨other,active⟩ => none_ other active
  · exact absurd ⟨moved,at_',by cases moved <;> first | rfl | cases sends⟩ (none_ other)

/-- A step that meets the condition keeps the flows apart. -/
theorem step_inv (s : State) (a : Action) (next : State) (inv : Inv s) (meets : Meets s a)
    (taken : step s a = some next) :
    Inv next := by
  cases a with
  | tick ms =>
    cases taken
    refine ⟨inv.single,inv.flag,inv.apart,inv.last,inv.past,fun call stage at_ sends time listed => ?_⟩
    exact Nat.le_trans (inv.armed call stage at_ sends time listed) (Nat.le_add_right _ _)
  | handleLedgerAlert call emailDto =>
    simp only [step] at taken
    split at taken
    · cases taken
    · rename_i fresh
      cases taken
      refine inv_idle inv ?_ ?_
      · rintro ⟨stage,at_,-⟩
        cases fresh.symm.trans at_
      · split <;> rfl
  | configured call found =>
    simp only [step] at taken
    split at taken
    · rename_i emailDto at_
      have idle : ¬s.active call := (active_iff at_).not.mpr Bool.false_ne_true
      cases found with
      | config emailFrom =>
        cases taken
        exact inv_started inv meets _
      | nothing =>
        cases taken
        exact inv_idle inv idle rfl
      | throws =>
        cases taken
        exact inv_idle inv idle rfl
    · cases taken
  | sent call result =>
    simp only [step] at taken
    split at taken
    · rename_i attempt emailDto at_
      split at taken
      · rename_i success
        subst success
        cases taken
        exact inv_sent inv at_ meets
      · cases taken
        refine inv_goes inv (iff_of_true ?_ ((active_iff at_).mpr rfl)) fun _ => inv.armed call _ at_ rfl
        split <;> rfl
    · cases taken
  | timeout call =>
    simp only [step] at taken
    split at taken
    · rename_i attempt emailDto at_
      cases taken
      exact inv_goes inv (iff_of_true rfl ((active_iff at_).mpr rfl)) fun _ => inv.armed call _ at_ rfl
    · cases taken
  | finally_ call =>
    simp only [step] at taken
    split at taken
    · rename_i at_
      cases taken
      exact inv_cleared inv at_
    · cases taken

theorem inv_throttled (inv : Inv s) : Throttled s := by
  refine ⟨inv.single,inv.apart,inv.flag,fun call emailDto fresh idle quiet => ?_,fun call emailDto emailFrom at_ => ?_⟩
  · have unset : s.isSendingAlert = false := Bool.eq_false_iff.mpr fun set_ => by
      obtain ⟨other,busy⟩ := inv.flag.mp set_
      exact idle other busy
    have admitted : s.admits = true := by simp [State.admits,(recent_iff inv).mpr quiet,unset]
    refine ⟨s.goes call (.getPlatformConfigDetails emailDto),by simp only [step,fresh,admitted,if_true],?_⟩
    rw [goes_calls,if_pos rfl]
  · refine ⟨_,by simp only [step,at_]; rfl,?_⟩
    rw [goes_calls,if_pos rfl]

end

theorem initial_inv (now : Nat) : Inv (State.initial now) where
  single := by rintro first second ⟨stage,⟨⟩,-⟩
  flag := iff_of_false Bool.false_ne_true (by rintro ⟨call,stage,⟨⟩,-⟩)
  apart := .nil
  last := rfl
  past := nofun
  armed := nofun
/-- Where the checks still pass when a configuration arrives, the alerts are throttled and none is held back. -/
theorem throttled_along {now : Nat} {actions : List Action} (along : Along step Meets (State.initial now) actions)
    {s : State} (reached : run step (State.initial now) actions = some s) : Throttled s :=
  inv_throttled (run_keeps_along step_inv (initial_inv now) along reached)
def alert : EmailDto := ⟨"",["admin"],"ALERT","","ledgerId is null"⟩
/-- One alert after the other, where the first attempt of the second fails and its call comes two hours after the first. -/
def alternating : List Action :=
  [.handleLedgerAlert 0 alert,.configured 0 (.config "platform"),.sent 0 (some true),.finally_ 0,.tick twoHours,
    .handleLedgerAlert 1 alert,.configured 1 (.config "platform"),.sent 1 (some false),.timeout 1,.sent 1
    (some true),.finally_ 1]
theorem throttled_alternating : (run step (State.initial 1790000000000) alternating).isSome = true ∧
    ∀ s, run step (State.initial 1790000000000) alternating = some s → Throttled s :=
  ⟨rfl,fun _ reached => throttled_along (by decide) reached⟩
/-- Two calls pass the checks before the configuration of either arrives. -/
def overlapping : List Action :=
  [.handleLedgerAlert 0 alert,.handleLedgerAlert 1 alert,.configured 0 (.config "platform"),.configured 1 (.config "platform")]
theorem two_flows :
    ∃ s, run step (State.initial 1790000000000) overlapping = some s ∧ s.active 0 ∧ s.active 1 ∧ ¬Throttled s := by
  refine ⟨_,rfl,⟨_,rfl,rfl⟩,⟨_,rfl,rfl⟩,fun throttled => ?_⟩
  exact absurd (throttled.single 0 1 ⟨_,rfl,rfl⟩ ⟨_,rfl,rfl⟩) (by decide)

end Ngotag.LedgerAlerts
