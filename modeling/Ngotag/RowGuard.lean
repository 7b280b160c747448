import Ngotag.BulkCalls
import Ngotag.Spelling

/-!
The guard of a bulk row. While a worker processes a row it holds the row's key,
and it gives the key back only when the row is issued in the database or nothing
was dispatched. So, as long as nobody else removes guards, the offer of a row is
started at most once in every run (`row_dispatched_once`), and no two workers
are inside the same row.
-/
namespace Ngotag.RowGuard
open Runs Await BulkStore BulkIssuance BulkCalls

section
variable (naming : Naming)

/-- A stored row that the guard key stands for is issued. -/
def RowIssued (key : String) (t : Tables) : Prop :=
  ∃ row, t.Issued row ∧ ∃ org file id, rowKey naming org file id = key ∧ naming.uuid id = some row
/-- A dispatched row is issued in the database or still guarded by the worker
    that dispatched it, and a worker inside a row holds its guard. -/
structure Guarded (w : World) : Prop where
  ids : (w.tables.rows.map (·.id)).Nodup
  once : (dispatchedKeys w.trace).Nodup
  covered : ∀ key ∈ dispatchedKeys w.trace, RowIssued naming key w.tables ∨ ∃ process, w.guard key = some process
  inside : ∀ process row, w.context process = some row → w.guard row.key = some process
/-- What the others keep for a worker: its guards and its context, issued rows
    stay issued, and the rows it guards are dispatched by nobody else. -/
structure Undisturbed (process : Nat) (a b : World) : Prop where
  guard : ∀ key, a.guard key = some process → b.guard key = some process
  context : b.context process = a.context process
  issued : ∀ key, RowIssued naming key a.tables → RowIssued naming key b.tables
  quiet : ∀ key, a.guard key = some process → key ∈ dispatchedKeys b.trace → key ∈ dispatchedKeys a.trace
/-- Only this code touches the guards. -/
def untouched : Env → World → Prop
  | .clearGuard _,_ => False
  | _,_ => True

def contract : Contract Cmd World Choice Env where
  inv := Guarded naming
  rely := Undisturbed naming
  idle _ _ := True
  allowed _ _ _ _ := True
  happens := untouched
end

variable {naming : Naming} {process : Nat} {a b c : World}
theorem rowIssued_grows {t t' : Tables} (grows : t.Grows t') {key : String} (issued : RowIssued naming key t) :
    RowIssued naming key t' := by
  obtain ⟨row,issued,spelled⟩ := issued
  exact ⟨row,issued.grows grows,spelled⟩
theorem undisturbed_refl : Undisturbed naming process a a :=
  ⟨fun _ held => held,rfl,fun _ issued => issued,fun _ _ member => member⟩
theorem undisturbed_trans (first : Undisturbed naming process a b) (second : Undisturbed naming process b c) :
    Undisturbed naming process a c :=
  ⟨fun key held => second.guard key (first.guard key held),second.context.trans first.context,
    fun key issued => second.issued key (first.issued key issued),
    fun key held member => first.quiet key held (second.quiet key (first.guard key held) member)⟩

theorem steady_of (inv : Guarded naming a) (grows : a.tables.Grows b.tables) (guard : b.guard = a.guard)
    (context : b.context = a.context) (trace : dispatchedKeys b.trace = dispatchedKeys a.trace) :
    Guarded naming b ∧ ∀ other, Undisturbed naming other a b := by
  refine ⟨⟨grows.rowIds inv.ids,by rw [trace]; exact inv.once,?_,?_⟩,fun other => ⟨?_,by rw [context],?_,?_⟩⟩
  · intro key member
    rw [trace] at member
    rw [guard]
    exact (inv.covered key member).imp_left (rowIssued_grows grows)
  · intro process row at_
    rw [context] at at_
    rw [guard]
    exact inv.inside process row at_
  · intro key held; rw [guard]; exact held
  · exact fun key => rowIssued_grows grows
  · intro key _ member; rw [trace] at member; exact member

theorem handle_steady {command : Cmd} (context : movesContext command = false) (guard : movesGuard command = false) :
    Steady (sys naming) (contract naming) command := by
  intro process before choice after answer inv _ handled
  have quiet : command ≠ .startOffer := by rintro rfl; cases context
  rcases handle_world handled with rfl | rfl
  · exact ⟨inv,fun _ => undisturbed_refl⟩
  · exact steady_of inv effect_grows (effect_guard guard) (effect_context context) (effect_dispatched quiet)
/-- The worker may give the guard back: if the row was dispatched it is issued. -/
def Returnable (naming : Naming) (key : String) (w : World) : Prop :=
  key ∈ dispatchedKeys w.trace → RowIssued naming key w.tables
/-- The worker holds the key, its context says whether it dispatched, and as
    long as it did not the guard may be given back. -/
structure Inside (naming : Naming) (process : Nat) (key : String) (dispatched : Bool) (w : World) : Prop where
  held : w.guard key = some process
  context : w.context process = some ⟨key,dispatched⟩
  returnable : dispatched = false → Returnable naming key w

variable {key : String} {dispatched : Bool}
theorem returnable_stable (held : a.guard key = some process) (returnable : Returnable naming key a)
    (relied : Undisturbed naming process a b) : Returnable naming key b :=
  fun member => relied.issued key (returnable (relied.quiet key held member))
theorem inside_stable (inside : Inside naming process key dispatched a) (relied : Undisturbed naming process a b) :
    Inside naming process key dispatched b :=
  ⟨relied.guard key inside.held,by rw [relied.context]; exact inside.context,
    fun not => returnable_stable inside.held (inside.returnable not) relied⟩
/-- The worker holds the guard of a row that nobody has dispatched. -/
structure Ready (naming : Naming) (process : Nat) (key : String) (w : World) : Prop where
  inside : Inside naming process key false w
  fresh : key ∉ dispatchedKeys w.trace
theorem ready_stable (ready : Ready naming process key a) (relied : Undisturbed naming process a b) :
    Ready naming process key b :=
  ⟨inside_stable ready.inside relied,fun member => ready.fresh (relied.quiet key ready.inside.held member)⟩
theorem transitive : ∀ a b c, (contract naming).rely process a b → (contract naming).rely process b c →
    (contract naming).rely process a c := fun _ _ _ => undisturbed_trans

theorem startOffer_spec (ready : Ready naming process key a) :
    wp (sys naming) (contract naming) process (perform .startOffer)
      (fun result w => result = .ok () ∧ Inside naming process key true w) a := by
  apply wp_perform
  intro before relied inv choice after answer _ handled
  have now := ready_stable ready relied
  rcases handle_cases handled with done | ⟨sync,-⟩
  · simp only [effect,now.inside.context] at done
    obtain ⟨rfl,rfl⟩ := Prod.mk.inj done
    have keys : dispatchedKeys (.dispatched process key :: before.trace) = key :: dispatchedKeys before.trace := rfl
    refine ⟨⟨inv.ids,?_,?_,?_⟩,?_,rfl,now.inside.held,by simp,by simp⟩
    · exact keys ▸ List.nodup_cons.mpr ⟨now.fresh,inv.once⟩
    · intro other member
      rcases List.mem_cons.mp (keys ▸ member) with rfl | earlier
      · exact .inr ⟨process,now.inside.held⟩
      · exact inv.covered other earlier
    · intro other row at_
      by_cases same : other = process
      · subst same
        simp only [Function.update_self,Option.some.injEq] at at_
        exact at_ ▸ now.inside.held
      · dsimp only at at_
        rw [Function.update_of_ne same] at at_
        exact inv.inside other row at_
    · intro other different
      refine ⟨fun _ held => held,by simp [Function.update_of_ne different],fun _ issued => issued,?_⟩
      intro other' held member
      rcases List.mem_cons.mp (keys ▸ member) with rfl | earlier
      · rw [now.inside.held] at held
        exact absurd (Option.some.inj held).symm different
      · exact earlier
  · cases sync

theorem after_dispatch {R : Type} {p : Bulk R} (only : Only (Steady (sys naming) (contract naming)) p)
    (inside : Inside naming process key true a) :
    wp (sys naming) (contract naming) process p (fun _ w => Inside naming process key true w) a :=
  wp_only (fun _ _ inside relied _ => inside_stable inside relied) only inside
theorem before_dispatch {R : Type} {p : Bulk R} (only : Only (Steady (sys naming) (contract naming)) p)
    (ready : Ready naming process key a) :
    wp (sys naming) (contract naming) process p (fun _ w => Ready naming process key w) a :=
  wp_only (fun _ _ ready relied _ => ready_stable ready relied) only ready
theorem perform_steady {command : Cmd} (context : movesContext command = false) (guard : movesGuard command = false) :
    Only (Steady (sys naming) (contract naming)) (perform command) :=
  (only_call command).mpr (handle_steady context guard)

theorem outOfBandCredentialOffer_spec (ready : Ready naming process key a) :
    wp (sys naming) (contract naming) process outOfBandCredentialOffer
      (fun _ w => ∃ dispatched, Inside naming process key dispatched w) a := by
  simp only [outOfBandCredentialOffer,offer,wp_bind]
  refine wp_mono ?_ (before_dispatch (perform_steady rfl rfl) ready)
  rintro (error | ⟨⟩) w ready
  · exact ⟨false,ready.inside⟩
  refine wp_mono ?_ (before_dispatch (perform_steady rfl rfl) ready)
  rintro (error | ⟨⟩) w ready
  · exact ⟨false,ready.inside⟩
  refine wp_mono ?_ (startOffer_spec ready)
  rintro result w ⟨rfl,inside⟩
  refine wp_mono ?_ (after_dispatch (perform_steady rfl rfl) inside)
  rintro (error | ⟨⟩) w inside
  · exact ⟨true,inside⟩
  refine wp_mono ?_ (after_dispatch (perform_steady rfl rfl) inside)
  exact fun _ _ inside => ⟨true,inside⟩

variable {job : Job}
def jobKey (naming : Naming) (job : Job) : String := rowKey naming job.orgId job.fileUploadId job.id
theorem deleteFileDataByJobId_spec (named : ∃ row, naming.uuid job.id = some row)
    (inside : Inside naming process (jobKey naming job) dispatched a) :
    wp (sys naming) (contract naming) process (perform (.deleteFileDataByJobId job.id))
      (fun result w => Inside naming process (jobKey naming job) dispatched w ∧
        (result = .ok () → RowIssued naming (jobKey naming job) w.tables)) a := by
  obtain ⟨row,named⟩ := named
  apply wp_perform
  intro before relied inv choice after answer _ handled
  obtain ⟨keeps,everyone⟩ := @handle_steady naming _ rfl rfl process before choice after answer inv trivial handled
  refine ⟨keeps,fun other _ => everyone other,
    inside_stable inside (undisturbed_trans relied (everyone process)),?_⟩
  rintro rfl
  exact ⟨row,deleteFileDataByJobId_ok named handled,_,_,_,rfl,named⟩

theorem issueRow_spec (named : ∃ row, naming.uuid job.id = some row)
    (ready : Ready naming process (jobKey naming job) a) :
    wp (sys naming) (contract naming) process (issueRow job)
      (fun result w => (∃ dispatched, Inside naming process (jobKey naming job) dispatched w) ∧
        (result = .ok () → RowIssued naming (jobKey naming job) w.tables)) a := by
  simp only [issueRow,wp_bind]
  refine wp_mono ?_ (before_dispatch (perform_steady rfl rfl) ready)
  rintro (error | available) w ready
  · exact ⟨⟨false,ready.inside⟩,by rintro ⟨⟩⟩
  cases available with
  | false => exact ⟨⟨false,ready.inside⟩,by rintro ⟨⟩⟩
  | true =>
  simp only [Bool.not_true,Bool.false_eq_true,↓reduceIte,wp_bind]
  refine wp_mono ?_ (before_dispatch (perform_steady rfl rfl) ready)
  rintro (error | ⟨⟩) w ready
  · exact ⟨⟨false,ready.inside⟩,by rintro ⟨⟩⟩
  refine wp_mono ?_ (outOfBandCredentialOffer_spec ready)
  rintro (error | delivered) w ⟨dispatched,inside⟩
  · exact ⟨⟨dispatched,inside⟩,by rintro ⟨⟩⟩
  cases delivered with
  | false => exact ⟨⟨dispatched,inside⟩,by rintro ⟨⟩⟩
  | true =>
  simp only [Bool.not_true,Bool.false_eq_true,↓reduceIte]
  refine wp_mono ?_ (deleteFileDataByJobId_spec named inside)
  exact fun _ _ ends => ⟨⟨dispatched,ends.1⟩,ends.2⟩

theorem getFileDataForProcessing_spec (inside : Inside naming process (jobKey naming job) false a) :
    wp (sys naming) (contract naming) process
      (perform (.getFileDataForProcessing job.id job.fileUploadId job.orgId))
      (fun result w => Inside naming process (jobKey naming job) false w ∧
        (result = .ok (some false) →
          (∃ row, naming.uuid job.id = some row) ∧ jobKey naming job ∉ dispatchedKeys w.trace)) a := by
  apply wp_perform
  intro before relied inv choice after answer _ handled
  obtain ⟨keeps,everyone⟩ := @handle_steady naming _ rfl rfl process before choice after answer inv trivial handled
  have now := inside_stable inside (undisturbed_trans relied (everyone process))
  refine ⟨keeps,fun other _ => everyone other,now,?_⟩
  rintro rfl
  obtain ⟨answered,rfl⟩ := query_ok (handle_ok handled)
  obtain ⟨row,-,-,named,-,-,-,r,member,sameId,-,pending⟩ := Tables.getFileDataForProcessing_some naming answered
  refine ⟨⟨row,named⟩,fun dispatched => ?_⟩
  -- The row is unique, so it cannot be issued and pending.
  obtain ⟨row',⟨r',member',sameId',status⟩,org',file',id',same,named'⟩ := now.returnable rfl dispatched
  have sameRow : row' = row := naming.uuid_identity id' job.id row' row named' named (rowKey_inj same).2.2
  have equal : r' = r := by
    refine List.inj_on_of_nodup_map keeps.ids member' member ?_
    rw [sameId',sameRow,sameId]
  rw [equal,pending] at status
  cases status

theorem processBulkRow_spec (inside : Inside naming process (jobKey naming job) false a) :
    wp (sys naming) (contract naming) process (processBulkRow job)
      (fun result w => ∃ dispatched, Inside naming process (jobKey naming job) dispatched w ∧
        (result = .ok true → Returnable naming (jobKey naming job) w)) a := by
  simp only [processBulkRow,wp_bind]
  refine wp_mono ?_ (getFileDataForProcessing_spec inside)
  rintro (error | current) w ⟨inside,pending⟩
  · exact ⟨false,inside,by rintro ⟨⟩⟩
  rcases current with _ | issued
  · exact ⟨false,inside,by rintro ⟨⟩⟩
  cases issued with
  | true => exact ⟨false,inside,fun _ => inside.returnable rfl⟩
  | false =>
  obtain ⟨named,fresh⟩ := pending rfl
  simp only [wp_bind,wp_tryCatch]
  refine wp_mono ?_ (issueRow_spec named ⟨inside,fresh⟩)
  rintro result w ⟨⟨dispatched,inside⟩,success⟩
  -- The result is written on the row, whether the offer was made or not.
  have recorded : ∀ failed, (failed = false → RowIssued naming (jobKey naming job) w.tables) →
      wp (sys naming) (contract naming) process
        (do perform (.updateFileUploadData job.id job.fileUploadId failed); pure !failed)
        (fun result w => ∃ dispatched, Inside naming process (jobKey naming job) dispatched w ∧
          (result = .ok true → Returnable naming (jobKey naming job) w)) w := by
    intro failed success
    simp only [wp_bind]
    refine wp_steady transitive (handle_steady rfl rfl) ?_
    rintro w' (error | ⟨⟩) relied -
    · exact ⟨dispatched,inside_stable inside relied,by rintro ⟨⟩⟩
    · refine ⟨dispatched,inside_stable inside relied,fun succeeded => ?_⟩
      have issued := relied.issued _ (success (by simpa using succeeded))
      exact fun _ => issued
  cases result with
  | error error => exact (wp_bind _ _ _ _).mp (recorded true (by rintro ⟨⟩))
  | ok value => exact (wp_bind _ _ _ _).mp (recorded false fun _ => success rfl)

/-- The guard is held but the row not entered, or left again. -/
structure Held (naming : Naming) (process : Nat) (key : String) (returnable : Prop) (w : World) : Prop where
  held : w.guard key = some process
  returnable : returnable → Returnable naming key w

variable {may : Prop}
theorem held_stable (held : Held naming process key may a) (relied : Undisturbed naming process a b) :
    Held naming process key may b :=
  ⟨relied.guard key held.held,fun so => returnable_stable held.held (held.returnable so) relied⟩

theorem setNx_spec :
    wp (sys naming) (contract naming) process (perform (.setNx key))
      (fun result w => result = .ok true → Held naming process key True w) a := by
  apply wp_perform
  intro before relied inv choice after answer _ handled
  -- Whether or not the answer arrives, a free guard may have been taken.
  have taken : before.guard key = none →
      Guarded naming { before with guard := Function.update before.guard key (some process) } ∧
        (∀ other, other ≠ process →
          Undisturbed naming other before { before with guard := Function.update before.guard key (some process) }) ∧
        Held naming process key True { before with guard := Function.update before.guard key (some process) } := by
    intro free
    have distinct : ∀ {owned : String} {other : Nat}, before.guard owned = some other → owned ≠ key := by
      rintro owned other held rfl
      rw [free] at held
      cases held
    refine ⟨⟨inv.ids,inv.once,?_,?_⟩,fun other _ => ⟨?_,rfl,fun _ issued => issued,fun _ _ member => member⟩,
      by simp,?_⟩
    · intro other member
      refine (inv.covered other member).imp_right ?_
      rintro ⟨owner,held⟩
      exact ⟨owner,by simpa [Function.update_of_ne (distinct held)] using held⟩
    · intro other row at_
      have held := inv.inside other row at_
      simpa [Function.update_of_ne (distinct held)] using held
    · intro owned held
      simpa [Function.update_of_ne (distinct held)] using held
    · intro _ member
      rcases inv.covered key member with issued | ⟨owner,held⟩
      · exact issued
      · exact absurd rfl (distinct held)
  cases free : before.guard key with
  | none =>
    have effect_eq : effect naming process (.setNx key) choice before =
        ({ before with guard := Function.update before.guard key (some process) },.ok true) := by
      simp only [effect,free]
    obtain ⟨keeps,others,own⟩ := taken free
    rcases handle_cases handled with done | ⟨-,rfl,rfl | rfl⟩
    · obtain ⟨rfl,rfl⟩ := Prod.mk.inj (done.trans effect_eq)
      exact ⟨keeps,others,fun _ => own⟩
    · exact ⟨inv,fun _ _ => undisturbed_refl,by rintro ⟨⟩⟩
    · rw [effect_eq]
      exact ⟨keeps,others,by rintro ⟨⟩⟩
  | some owner =>
    have effect_eq : effect naming process (.setNx key) choice before = (before,.ok false) := by
      simp only [effect,free]
    have stays : after = before := by
      rcases handle_world handled with same | same
      · exact same
      · rw [same,effect_eq]
    subst stays
    refine ⟨inv,fun _ _ => undisturbed_refl,?_⟩
    rintro rfl
    cases (congrArg Prod.snd (effect_eq.symm.trans (handle_ok handled)))

theorem enterRow_spec (held : Held naming process key True a) :
    wp (sys naming) (contract naming) process (perform (.enterRow key))
      (fun _ w => Inside naming process key false w) a := by
  apply wp_perform
  intro before relied inv choice after answer _ handled
  have now := held_stable held relied
  have entered : after = { before with context := Function.update before.context process (some ⟨key,false⟩) } := by
    rcases handle_cases handled with done | ⟨sync,-⟩
    · exact congrArg Prod.fst done
    · cases sync
  subst entered
  refine ⟨⟨inv.ids,inv.once,inv.covered,?_⟩,?_,now.held,by simp,fun _ => now.returnable trivial⟩
  · intro other row at_
    dsimp only at at_
    by_cases same : other = process
    · subst same
      rw [Function.update_self] at at_
      exact Option.some.inj at_ ▸ now.held
    · rw [Function.update_of_ne same] at at_
      exact inv.inside other row at_
  · intro other different
    exact ⟨fun _ held => held,by simp [Function.update_of_ne different],fun _ issued => issued,
      fun _ _ member => member⟩

theorem leaveRow_spec (inside : Inside naming process key dispatched a) (returns : may → Returnable naming key a) :
    wp (sys naming) (contract naming) process (perform .leaveRow)
      (fun result w => result = .ok dispatched ∧ w.context process = none ∧
        Held naming process key may w) a := by
  apply wp_perform
  intro before relied inv choice after answer _ handled
  have now := inside_stable inside relied
  have later : may → Returnable naming key before := fun so => returnable_stable inside.held (returns so) relied
  rcases handle_cases handled with done | ⟨sync,-⟩
  · simp only [effect,now.context] at done
    obtain ⟨rfl,rfl⟩ := Prod.mk.inj done
    refine ⟨⟨inv.ids,inv.once,inv.covered,?_⟩,?_,rfl,by simp,now.held,later⟩
    · intro other row at_
      dsimp only at at_
      by_cases same : other = process
      · subst same; rw [Function.update_self] at at_; cases at_
      · rw [Function.update_of_ne same] at at_
        exact inv.inside other row at_
    · intro other different
      exact ⟨fun _ held => held,by simp [Function.update_of_ne different],fun _ issued => issued,
        fun _ _ member => member⟩
  · cases sync

theorem releaseRow_spec (outside : a.context process = none) (held : Held naming process key True a) :
    wp (sys naming) (contract naming) process (perform (.releaseRow key)) (fun _ _ => True) a := by
  apply wp_perform
  intro before relied inv choice after answer _ handled
  have now := held_stable held relied
  have effect_eq : (effect naming process (.releaseRow key) choice before).1 =
      { before with guard := Function.update before.guard key none } := by
    simp only [effect,now.held,if_true]
  rcases handle_world handled with rfl | rfl
  · exact ⟨inv,fun _ _ => undisturbed_refl,trivial⟩
  rw [effect_eq]
  have distinct : ∀ {owned : String} {other : Nat}, other ≠ process → before.guard owned = some other →
      owned ≠ key := by
    rintro owned other different owns rfl
    rw [now.held] at owns
    exact different (Option.some.inj owns).symm
  refine ⟨⟨inv.ids,inv.once,?_,?_⟩,fun other different => ⟨?_,rfl,fun _ issued => issued,fun _ _ member => member⟩,
    trivial⟩
  · intro other member
    by_cases same : other = key
    · subst same
      exact .inl (now.returnable trivial member)
    · simpa [Function.update_of_ne same] using inv.covered other member
  · intro other row at_
    have different : other ≠ process := by
      rintro rfl
      dsimp only at at_
      rw [relied.context,outside] at at_
      cases at_
    have owns := inv.inside other row at_
    simpa [Function.update_of_ne (distinct different owns)] using owns
  · intro owned owns
    simpa [Function.update_of_ne (distinct different owns)] using owns

theorem guardedRow_spec :
    Harmless (sys naming) (contract naming) process (guardedRow (jobKey naming job) (processBulkRow job)) := by
  intro w
  simp only [guardedRow,wp_bind]
  refine wp_mono ?_ setNx_spec
  rintro (error | acquired) w held
  · trivial
  cases acquired with
  | false => trivial
  | true =>
  simp only [Bool.not_true,Bool.false_eq_true,↓reduceIte,wp_bind,wp_ensure]
  refine wp_mono ?_ (enterRow_spec (held rfl))
  rintro (error | ⟨⟩) w inside
  · trivial
  refine wp_mono ?_ (processBulkRow_spec inside)
  rintro result w ⟨dispatched,inside,success⟩
  have returns : result = .ok true ∨ dispatched = false → Returnable naming (jobKey naming job) w := by
    rintro (succeeded | waiting)
    · exact success succeeded
    · exact inside.returnable waiting
  refine wp_mono ?_ (leaveRow_spec inside returns)
  rintro _ w' ⟨rfl,outside,held⟩
  dsimp only
  split
  · rename_i so
    refine wp_mono ?_ (releaseRow_spec outside ⟨held.held,fun _ => held.returnable so⟩)
    rintro (error | ⟨⟩) _ _ <;> trivial
  · trivial

theorem requests_steady {command : Cmd} (request : requests command = true) :
    Steady (sys naming) (contract naming) command := by
  cases command <;> first | cases request; done | exact handle_steady rfl rfl
theorem finishes_steady {command : Cmd} (finish : finishes command = true) :
    Steady (sys naming) (contract naming) command := by
  cases command <;> first | cases finish; done | exact handle_steady rfl rfl

theorem finishes_of_closes (command : Cmd) (closing : closes command = true) : finishes command = true := by
  cases command <;> first | rfl | cases closing

theorem issueCredential_spec : Harmless (sys naming) (contract naming) process (issueCredential naming job) := by
  have finish : ∀ {R : Type} {p : Bulk R}, Only (finishes · = true) p →
      Harmless (sys naming) (contract naming) process p :=
    fun only => harmless_only (only_mono (fun _ => finishes_steady) only)
  have call : ∀ {command : Cmd}, finishes command = true →
      Harmless (sys naming) (contract naming) process (perform command) :=
    fun fin => finish ((only_call _).mpr fin)
  have row : Harmless (sys naming) (contract naming) process (guardedBulkRow naming job) :=
    harmless_ensure (harmless_bind (call rfl) fun _ => guardedRow_spec) fun _ => call rfl
  refine harmless_bind (harmless_tryCatch ?_ fun error => ?_) fun succeeded => ?_
  · exact harmless_bind row fun succeeded =>
      harmless_bind (finish (only_mono finishes_of_closes (completeBulkRow_closes job))) fun _ => harmless_ret succeeded
  · exact harmless_bind (harmless_tryCatch (harmless_bind (call rfl) fun _ => harmless_ret ())
      fun _ => harmless_ret ()) fun _ => harmless_fail error
  · split
    · exact harmless_fail _
    · exact harmless_ret ()

theorem request_spec {input : Input} (notJob : ∀ job, input ≠ .job job) :
    Harmless (sys naming) (contract naming) process ((sys naming).program process input) :=
  harmless_only (only_mono (fun _ => requests_steady) (program_requests notJob))

theorem keeps : Keeps (sys naming) (contract naming) (fun _ _ _ => True) where
  reflexive _ _ := undisturbed_refl
  transitive _ _ _ _ := undisturbed_trans
  stable _ _ _ _ _ _ _ := trivial
  idles _ _ _ _ _ _ := trivial
  arrives process input a b inv _ arrived := by
    have unchanged : b.tables = a.tables ∧ b.guard = a.guard ∧ b.context = a.context ∧ b.trace = a.trace := by
      change arrive process input a = some b at arrived
      cases input with
      | job job =>
        simp only [arrive] at arrived
        split at arrived
        · cases arrived; exact ⟨rfl,rfl,rfl,rfl⟩
        · cases arrived
      | issue orgId count => cases arrived; exact ⟨rfl,rfl,rfl,rfl⟩
      | retry fileId orgId => cases arrived; exact ⟨rfl,rfl,rfl,rfl⟩
      | chain jobs =>
        simp only [arrive] at arrived
        split at arrived
        · cases arrived; exact ⟨rfl,rfl,rfl,rfl⟩
        · cases arrived
    obtain ⟨tables,guard,context,trace⟩ := unchanged
    obtain ⟨inv',relied⟩ := steady_of inv (tables ▸ Tables.Grows.refl _) guard context (by rw [trace])
    refine ⟨inv',fun other _ => relied other,?_⟩
    cases input with
    | job job => exact issueCredential_spec b
    | _ => refine request_spec ?_ b; rintro _ ⟨⟩
  moves event a b inv happens moved := by
    change environment event a = some b at moved
    cases event with
    | clearGuard key => cases happens
    | expire key =>
      simp only [environment] at moved
      split at moved
      · cases moved; exact steady_of inv (Tables.Grows.refl _) rfl rfl rfl
      · cases moved
    | lateRow row file =>
      obtain ⟨tables,saved,rfl⟩ := Option.map_eq_some_iff.mp moved
      exact steady_of inv (Tables.saveFileDetails_grows saved) rfl rfl rfl
    | enqueue job => cases moved; exact steady_of inv (Tables.Grows.refl _) rfl rfl rfl

theorem guarded_empty : Guarded naming World.empty where
  ids := List.nodup_nil
  once := List.nodup_nil
  covered _ member := by cases member
  inside _ _ at_ := by cases at_

/-- In every run in which only this code touches the guards, the offer of a row
    is started at most once, and no two workers are inside the same row. -/
theorem row_dispatched_once (naming : Naming) {actions : List (Action Choice Input Env)}
    {m : Machine Cmd Ret Failure Unit World} (untouched : ∀ key, .environment (.clearGuard key) ∉ actions)
    (reached : run (step (sys naming)) (Machine.initial World.empty) actions = some m) :
    (∀ orgId fileId rowId, (dispatchedKeys m.world.trace).count (rowKey naming orgId fileId rowId) ≤ 1) ∧
      ∀ process other row row', m.world.context process = some row → m.world.context other = some row' →
        row.key = row'.key → process = other := by
  have considered : Along (step (sys naming)) (Considered (contract naming)) (Machine.initial World.empty) actions := by
    apply along_of_forall
    intro m a member
    cases a with
    | start process input => trivial
    | advance process choice => exact fun _ _ _ => trivial
    | crash process => trivial
    | environment event =>
      cases event with
      | clearGuard key => exact absurd member (untouched key)
      | _ => trivial
  have inv := (run_safe keeps (safe_initial guarded_empty fun _ => trivial) considered reached).inv
  refine ⟨fun orgId fileId rowId => List.nodup_iff_count_le_one.mp inv.once _,?_⟩
  intro process other row row' at_ at' same
  have held := inv.inside process row at_
  rw [same,inv.inside other row' at'] at held
  exact (Option.some.inj held).symm

/-- A file of one row whose job is delivered twice: the first worker issues the
    row, the second is refused while the guard is held. -/
def redelivered : List (Action Choice Input Env) :=
  [Spelling.uploads,Spelling.goesOn 0 1,Spelling.delivers 1 2 (Spelling.rowJob 0 false),
    [.start 3 (.job (Spelling.rowJob 0 false))],Spelling.goesOn 2 9,Spelling.goesOn 3 2].flatten

theorem row_dispatched_once_redelivered :
    ∃ m, run (step (sys Spelling.spelled)) (Machine.initial World.empty) redelivered = some m ∧
      (dispatchedKeys m.world.trace).length = 1 ∧
      ∀ orgId fileId rowId, (dispatchedKeys m.world.trace).count (rowKey Spelling.spelled orgId fileId rowId) ≤ 1 := by
  have runs : ((run (step (sys Spelling.spelled)) (Machine.initial World.empty) redelivered).map fun m =>
      (dispatchedKeys m.world.trace).length) = some 1 := by decide +kernel
  obtain ⟨m,reached,one⟩ := Option.map_eq_some_iff.mp runs
  refine ⟨m,reached,one,(row_dispatched_once Spelling.spelled ?_ reached).1⟩
  intro key member
  simp [redelivered,Spelling.uploads,Spelling.delivers,Spelling.goesOn] at member

end Ngotag.RowGuard
