import Ngotag.OfferDeadlines

/-!
What an offer leaves behind. The queue of its worker counts the holders of slots
right and an offer that is over holds none. Its release is the last script it
sends; where Redis has executed the scripts of every offer in the order they were
sent, an acknowledged release leaves no field of the owner in the hash. With the
deadlines this makes `no_late_dispatch`.
-/
namespace Ngotag.OfferSettling
open Runs Await AdmissionQueue PermitScripts OfferPermits

/-- Nothing was sent, or a release was executed. -/
def GaveBack (process : Nat) (w : World) : Prop :=
  w.sent process = [] ∨
    ∃ place result, (process,place,result) ∈ w.replies ∧ (w.sent process)[place]? = some (.release process)
/-- The scripts of each offer were executed in the order in which they were sent: a
    worker sends them over one connection, and Redis serves a connection first in,
    first out. -/
def InTurn (w : World) : Prop :=
  w.replies.Pairwise fun later earlier => earlier.1 = later.1 → earlier.2.1 ≤ later.2.1
instance (w : World) : Decidable (InTurn w) := inferInstanceAs (Decidable (List.Pairwise _ _))
/-- The queues count their slots right, the scripts sent are those of their offers,
    releases come last, and in turn they leave nothing behind. -/
structure Settles (w : World) : Prop where
  accounts : ∀ worker, Accounts (w.queue worker) (w.holders worker)
  own : ∀ process, ∀ script ∈ w.sent process, script.owner = process
  answers : ∀ process place result, (process,place,result) ∈ w.replies → place < (w.sent process).length
  ordered : ∀ (process earlier later : Nat) (script : Script), (w.sent process)[earlier]? = some (.release process) →
    earlier ≤ later → (w.sent process)[later]? = some script → script = .release process
  absent : InTurn w → ∀ process, GaveBack process w → w.hash.lookup (.owner process) = none
def placeOf (w : World) (worker process : Nat) : Place := place (w.queue worker) (w.holders worker) process
/-- What the others keep for an offer; they may settle its waiting. -/
structure Undisturbed (process : Nat) (a b : World) : Prop where
  sent : b.sent process = a.sent process
  replies : a.replies ⊆ b.replies
  refusals : b.refusals process = a.refusals process
  places : ∀ worker, (placeOf a worker process).Moves (placeOf b worker process)
def contract : Contract Cmd World Choice Env where
  inv := Settles
  rely := Undisturbed
  idle process w := w.sent process = [] ∧ w.refusals process = 0 ∧ ∀ worker, placeOf w worker process = .outside
  allowed _ _ _ _ := True
  happens _ _ := True

section
variable {process : Nat} {a b : World}

theorem undisturbed_refl : Undisturbed process a a := ⟨rfl,fun _ member => member,rfl,fun _ => moves_refl _⟩
theorem undisturbed_trans {c : World} (first : Undisturbed process a b) (second : Undisturbed process b c) :
    Undisturbed process a c :=
  ⟨second.sent.trans first.sent,fun _ member => second.replies (first.replies member),
    second.refusals.trans first.refusals,fun worker => moves_trans (first.places worker) (second.places worker)⟩
theorem gaveBack_kept (kept : Undisturbed process a b) (gave : GaveBack process a) : GaveBack process b := by
  rcases gave with nothing | ⟨place,result,answered,release⟩
  · exact .inl (kept.sent.trans nothing)
  · exact .inr ⟨place,result,kept.replies answered,by rw [kept.sent]; exact release⟩
/-- Nothing that offers have sent or hold is changed. -/
structure Same (a b : World) : Prop where
  hash : b.hash = a.hash
  sent : b.sent = a.sent
  replies : b.replies = a.replies
  queue : b.queue = a.queue
  holders : b.holders = a.holders
theorem settles_same (settles : Settles a) (same : Same a b) : Settles b := by
  obtain ⟨accounts,own,answers,ordered,absent⟩ := settles
  simp only [InTurn,GaveBack] at absent
  constructor <;> simpa only [same.hash,same.sent,same.replies,same.queue,same.holders,InTurn,GaveBack]
theorem undisturbed_same (same : Same a b) (refusals : b.refusals process = a.refusals process) :
    Undisturbed process a b := by
  refine ⟨by rw [same.sent],by rw [same.replies]; exact fun _ member => member,refusals,fun worker => ?_⟩
  rw [placeOf,placeOf,same.queue,same.holders]
  exact moves_refl _

theorem execute_settles {place : Nat} {time : RedisTime} {script : Script} (settles : Settles a)
    (sent : (a.sent process)[place]? = some script) : Settles (a.execute process place script time) := by
  refine ⟨settles.accounts,settles.own,?_,settles.ordered,?_⟩
  · intro other at_ result answered
    rcases List.mem_cons.mp answered with now | before
    · cases now
      exact (List.getElem?_eq_some_iff.mp sent).1
    · exact settles.answers other at_ result before
  · intro inTurn other gave
    obtain ⟨order,before_⟩ := List.pairwise_cons.mp inTurn
    have owned : script.owner = process := settles.own process script (List.mem_of_getElem? sent)
    by_cases mine : other = process
    · subst mine
      -- A release executed before leaves only releases to be executed now.
      have release : script = .release other := by
        rcases gave with nothing | ⟨at_,result,answered,release⟩
        · have : a.sent other = [] := nothing
          rw [this] at sent
          cases sent
        · rcases List.mem_cons.mp answered with now | before
          · cases now
            exact Option.some.inj (sent.symm.trans release)
          · exact settles.ordered other at_ place script release (order _ before rfl) sent
      subst release
      exact release_absent time
    · refine execute_absent time (by rw [owned]; exact Ne.symm mine) (settles.absent before_ other ?_)
      rcases gave with nothing | ⟨at_,result,answered,release⟩
      · exact .inl nothing
      · rcases List.mem_cons.mp answered with now | before
        · cases now; exact absurd rfl mine
        · exact .inr ⟨at_,result,before,release⟩

theorem send_settles {script : Script} (settles : Settles a) (owned : script.owner = process)
    (last : script = .release process ∨ .release process ∉ a.sent process) : Settles (a.send process script) := by
  refine ⟨settles.accounts,?_,?_,?_,?_⟩
  · intro other sent member
    rcases mem_sent.mp member with before | ⟨rfl,rfl⟩
    · exact settles.own other sent before
    · exact owned
  · exact fun other place result answered =>
      Nat.lt_of_lt_of_le (settles.answers other place result answered) (sent_earlier a process script other).length_le
  · intro other earlier later found release order at_
    by_cases mine : other = process
    · subst mine
      rw [sent_self] at release at_
      rcases last with rfl | none
      · by_cases inside : later < (a.sent other).length
        · rw [List.getElem?_append_left inside] at at_
          rw [List.getElem?_append_left (by omega)] at release
          exact settles.ordered other earlier later found release order at_
        · rw [List.getElem?_append_right (by omega)] at at_
          exact List.mem_singleton.mp (List.mem_of_getElem? at_)
      · -- The only release can be the script itself, and then it is the last.
        have outside : ¬earlier < (a.sent other).length := by
          intro inside
          rw [List.getElem?_append_left inside] at release
          exact none (List.mem_of_getElem? release)
        rw [List.getElem?_append_right (by omega)] at release at_
        have first := List.mem_singleton.mp (List.mem_of_getElem? release)
        have second := List.mem_singleton.mp (List.mem_of_getElem? at_)
        exact second.trans first.symm
    · rw [sent_of_ne mine] at release at_
      exact settles.ordered other earlier later found release order at_
  · intro inTurn other gave
    refine settles.absent inTurn other ?_
    rcases gave with nothing | ⟨place,result,answered,release⟩
    · obtain ⟨more,whole⟩ := sent_earlier a process script other
      rw [nothing] at whole
      exact .inl (List.append_eq_nil_iff.mp whole).1
    · refine .inr ⟨place,result,answered,?_⟩
      obtain ⟨more,whole⟩ := sent_earlier a process script other
      rw [← whole,List.getElem?_append_left (settles.answers other place result answered)] at release
      exact release

theorem undisturbed_send {other : Nat} {script : Script} (different : other ≠ process) :
    Undisturbed other a (a.send process script) :=
  ⟨sent_of_ne different,fun _ member => member,rfl,fun _ => moves_refl _⟩
end
section
variable {process worker : Nat} {a : World} {queue : Admission} {holders : Finset Nat}

theorem placeOf_reseat (other : Nat) :
    placeOf (a.reseat worker queue holders) other process =
      if other = worker then place queue holders process else placeOf a other process := by
  by_cases same : other = worker
  · subst same; simp [placeOf,World.reseat]
  · simp [placeOf,World.reseat,same]
theorem reseat_settles (settles : Settles a) (accounts : Accounts queue holders) :
    Settles (a.reseat worker queue holders) := by
  refine ⟨?_,settles.own,settles.answers,settles.ordered,settles.absent⟩
  intro other
  by_cases same : other = worker
  · subst same; simpa [World.reseat] using accounts
  · simpa [World.reseat,same] using settles.accounts other
theorem undisturbed_reseat (moves : (placeOf a worker process).Moves (place queue holders process)) :
    Undisturbed process a (a.reseat worker queue holders) := by
  refine ⟨rfl,fun _ member => member,rfl,fun other => ?_⟩
  rw [placeOf_reseat]
  split
  · rename_i same; rw [same]; exact moves
  · exact moves_refl _

end
section
variable {workers : Nat → Coordinator} {rounds process : Nat} {w : World}

/-- Commands that touch neither a queue nor the scripts. -/
def Still : Cmd → Prop
  | .enqueue _ _ => False
  | .leave _ => False
  | .send _ => False
  | .reply => False
  | _ => True
theorem handle_still {c : Cmd} {choice : Choice} {a b : World} {answer : Except Error (Ret c)} (still : Still c)
    (handled : handle workers process c choice a = some (b,answer)) : Same a b ∧ b.refusals = a.refusals := by
  rcases handle_cases handled with rfl | ⟨_,_,-,rfl⟩ | ⟨⟨_,_,rfl⟩ | ⟨_,rfl⟩,-⟩ | ⟨_,rfl,-⟩ | ⟨rfl,-⟩ | ⟨_,_,_,-,
      rfl⟩ | ⟨-,rfl⟩
  case inr.inr.inl.inl | inr.inr.inl.inr | inr.inr.inr.inl | inr.inr.inr.inr.inl => cases still
  all_goals exact ⟨⟨rfl,rfl,rfl,rfl,rfl⟩,rfl⟩
theorem steady_still {c : Cmd} (still : Still c) : Steady (sys workers rounds) contract c := by
  intro process before choice after answer inv _ handled
  obtain ⟨same,refusals⟩ := handle_still still handled
  exact ⟨settles_same inv same,fun other => undisturbed_same same (by rw [refusals])⟩

theorem handle_answer {choice : Choice} {a b : World} {answer : Except Error Int}
    (handled : handle workers process .reply choice a = some (b,answer)) :
    (b = a ∧ ∃ result, answer = .ok result ∧ (process,(a.sent process).length - 1,result) ∈ a.replies) ∨
      (answer = .error .redis ∧ b = { a with refusals := Function.update a.refusals process (a.refusals process +
        if (a.sent process).getLast? = some (.release process) then 1 else 0) }) := by
  simp only [handle] at handled
  split at handled
  · split at handled
    · rename_i answered
      cases handled
      exact .inl ⟨rfl,_,rfl,answered⟩
    · cases handled
  · cases handled
    exact .inr ⟨rfl,rfl⟩
  · cases handled

/-- The offer holds a slot of its worker, and stands in no other queue. -/
def Seated (worker process : Nat) (w : World) : Prop :=
  (placeOf w worker process).holding = true ∧ (placeOf w worker process).waiting = false ∧
    ∀ other, other ≠ worker → placeOf w other process = .outside
/-- The offer stands in no queue and holds no slot. -/
def Gone (process : Nat) (w : World) : Prop :=
  ∀ worker, (placeOf w worker process).waiting = false ∧ (placeOf w worker process).holding = false

theorem seated_stable {worker : Nat} {a b : World} (seated : Seated worker process a)
    (kept : Undisturbed process a b) : Seated worker process b := by
  have own := moves_holding (kept.places worker) seated.1
  refine ⟨own ▸ seated.1,own ▸ seated.2.1,fun other different => ?_⟩
  have moved := kept.places other
  rw [seated.2.2 other different] at moved
  exact moves_outside moved
theorem gone_stable {a b : World} (gone : Gone process a) (kept : Undisturbed process a b) : Gone process b := by
  intro worker
  rcases kept.places worker with same | ⟨waits,-⟩
  · rw [same]; exact gone worker
  · have here := (gone worker).1
    rw [waits] at here
    cases here

/-- Before the offer gives its permit back. -/
structure Before (worker process : Nat) (w : World) : Prop where
  seated : Seated worker process w
  unreleased : .release process ∉ w.sent process
  refusals : w.refusals process = 0
theorem before_stable {worker : Nat} (a b : World) (before : Before worker process a) (kept : Undisturbed process a b)
    (_ : Settles b) : Before worker process b :=
  ⟨seated_stable before.seated kept,by rw [kept.sent]; exact before.unreleased,kept.refusals.trans before.refusals⟩
/-- Before the release: commands that touch nothing, replies, and scripts that are no release. -/
def Ordinary (process : Nat) (c : Cmd) : Prop :=
  Still c ∨ c = .reply ∨ ∃ script, c = .send script ∧ script.owner = process ∧ script ≠ .release process

theorem wp_before {β : Type} {worker : Nat} {p : Async β} (only : Only (Ordinary process) p)
    (before : Before worker process w) :
    wp (sys workers rounds) contract process p (fun _ w => Before worker process w) w := by
  refine wp_each before_stable ?_ only before
  intro command ordinary a choice b answer inv before allowed handled
  rcases ordinary with still | rfl | ⟨script,rfl,owned,other⟩
  · obtain ⟨keeps,everyone⟩ := steady_still still process a choice b answer inv allowed handled
    exact ⟨keeps,fun other _ => everyone other,before_stable a b before (everyone process) keeps⟩
  · rcases @handle_answer workers process choice a b answer handled with ⟨rfl,-⟩ | ⟨-,rfl⟩
    · exact ⟨inv,fun _ _ => undisturbed_refl,before⟩
    · have same : Same a { a with refusals := Function.update a.refusals process (a.refusals process +
          if (a.sent process).getLast? = some (.release process) then 1 else 0) } := ⟨rfl,rfl,rfl,rfl,rfl⟩
      have early : (a.sent process).getLast? ≠ some (.release process) :=
        fun last => before.unreleased (List.mem_of_getLast? last)
      refine ⟨settles_same inv same,fun other different => undisturbed_same same (Function.update_of_ne different _ _),
        before.seated,before.unreleased,?_⟩
      simp [early,before.refusals]
  · cases handled
    refine ⟨send_settles inv owned (.inr before.unreleased),fun other different => undisturbed_send different,
      before.seated,?_,before.refusals⟩
    intro member
    rcases mem_sent.mp member with earlier | ⟨-,same⟩
    · exact before.unreleased earlier
    · exact other same.symm

/-- Unless three releases failed the permit is given back. -/
def Done (process : Nat) (w : World) : Prop := w.refusals process < 3 → GaveBack process w
theorem done_stable {a b : World} (done : Done process a) (kept : Undisturbed process a b) : Done process b :=
  fun few => gaveBack_kept kept (done (by rw [← kept.refusals]; exact few))

theorem wp_releaseOnce {worker refused : Nat} (seated : Seated worker process w) (count : w.refusals process = refused) :
    wp (sys workers rounds) contract process (do let _ ← eval (.release process))
      (fun cleaned w => Seated worker process w ∧
        (∀ value, cleaned = .ok value → GaveBack process w) ∧
        ∀ error, cleaned = .error error → w.refusals process = refused + 1) w := by
  refine (wp_bind _ _ _ _).mpr ((wp_bind _ _ _ _).mpr ?_)
  apply wp_perform
  intro a relied inv choice b answer _ handled
  cases handled
  refine ⟨send_settles inv rfl (.inl rfl),fun other different => undisturbed_send different,?_⟩
  have sending : Seated worker process (a.send process (.release process)) := by
    have here := seated_stable seated relied
    exact here
  apply wp_perform
  intro c later inv choice d answer _ handled
  have seated := seated_stable sending later
  have last : c.sent process = a.sent process ++ [.release process] := later.sent.trans sent_self
  rcases @handle_answer workers process choice c d answer handled with ⟨rfl,result,rfl,answered⟩ | ⟨rfl,rfl⟩
  · refine ⟨inv,fun _ _ => undisturbed_refl,seated,fun _ _ => ?_,by rintro _ ⟨⟩⟩
    refine .inr ⟨_,result,answered,?_⟩
    rw [last]
    simp
  · have same : Same c { c with refusals := Function.update c.refusals process (c.refusals process +
        if (c.sent process).getLast? = some (.release process) then 1 else 0) } := ⟨rfl,rfl,rfl,rfl,rfl⟩
    refine ⟨settles_same inv same,fun other different => undisturbed_same same (Function.update_of_ne different _ _),
      seated,by rintro _ ⟨⟩,fun _ _ => ?_⟩
    have before : c.refusals process = refused := later.refusals.trans (relied.refusals.trans count)
    simp [last,before]

theorem wp_releaseFrom {worker attempt left : Nat} (seated : Seated worker process w)
    (count : w.refusals process = attempt) (three : attempt + left = 2) :
    wp (sys workers rounds) contract process (releaseFrom process attempt left)
      (fun _ w => Seated worker process w ∧ Done process w) w := by
  induction left generalizing attempt w with
  | zero =>
    refine wp_mono ?_ (wp_releaseOnce seated count)
    rintro (error | _) a ⟨seated,gave,refused⟩
    · refine ⟨seated,fun few => ?_⟩
      have third := refused error rfl
      omega
    · exact ⟨seated,fun _ => gave _ rfl⟩
  | succ left ih =>
    rw [releaseFrom,wp_tryCatch]
    refine wp_mono ?_ (wp_releaseOnce seated count)
    rintro (error | _) a ⟨seated,gave,refused⟩
    · refine (wp_bind _ _ _ _).mpr ?_
      apply wp_perform
      intro b relied inv choice c answer _ handled
      cases handled
      exact ⟨inv,fun _ _ => undisturbed_refl,ih (seated_stable seated relied)
        (relied.refusals.trans (refused error rfl)) (by omega)⟩
    · exact ⟨seated,fun _ => gave _ rfl⟩

theorem wp_acquireAndRun {offer : Offer} {worker : Nat} {deadline : Time} (before : Before worker process w) :
    wp (sys workers rounds) contract process (acquireAndRun (workers offer.worker) offer process deadline rounds)
      (fun _ w => Seated worker process w ∧ Done process w) w := by
  have still : ∀ c, Still c → Ordinary process c := fun c still => .inl still
  have own : ∀ script, script.owner = process → script ≠ .release process → Ordinary process (.send script) :=
    fun script owned other => .inr (.inr ⟨script,rfl,owned,other⟩)
  have body : Only (Ordinary process) (runPermitted (workers offer.worker) offer process deadline rounds) :=
    runPermitted_only (still _ trivial) (own _ rfl (by rintro ⟨⟩)) (own _ rfl (by rintro ⟨⟩)) (.inr (.inl rfl))
    (fun _ => still _ trivial)
      (still _ trivial) (still _ trivial) (still _ trivial)
  rw [acquireAndRun,wp_ensure]
  refine wp_mono ?_ (wp_before body before)
  intro result a before
  refine wp_mono ?_ (wp_releaseFrom before.seated before.refusals rfl)
  rintro (_ | _) b ends <;> exact ends

/-- The offer has done nothing yet. -/
structure Fresh (process : Nat) (w : World) : Prop where
  sent : w.sent process = []
  refusals : w.refusals process = 0
  outside : ∀ worker, placeOf w worker process = .outside
theorem fresh_stable (a b : World) (fresh : Fresh process a) (kept : Undisturbed process a b) (_ : Settles b) :
    Fresh process b := by
  refine ⟨kept.sent.trans fresh.sent,kept.refusals.trans fresh.refusals,fun worker => ?_⟩
  have moved := kept.places worker
  rw [fresh.outside worker] at moved
  exact moves_outside moved

/-- The offer has left its queue and given its permit back. -/
def Ended (process : Nat) (w : World) : Prop := Gone process w ∧ Done process w
theorem ended_of_fresh (fresh : Fresh process w) : Ended process w := by
  refine ⟨fun worker => ?_,fun _ => .inl fresh.sent⟩
  rw [fresh.outside worker]
  exact ⟨rfl,rfl⟩
/-- The worker has admitted the offer, which has sent nothing yet. -/
def Admitted (worker process : Nat) (w : World) : Prop := Before worker process w ∧ w.sent process = []
def Admittance (worker process : Nat) : Except Error Unit → World → Prop
  | .ok _,w => Admitted worker process w
  | .error _,w => Ended process w
/-- An offer waits in its queue, or was told how that ended. -/
def Queued (worker process : Nat) (w : World) : Prop :=
  (placeOf w worker process = .queued ∨ placeOf w worker process = .refused ∨
    placeOf w worker process = .admitted) ∧
    (∀ other, other ≠ worker → placeOf w other process = .outside) ∧ w.sent process = [] ∧ w.refusals process = 0

theorem queued_stable {worker : Nat} {a b : World} (queued : Queued worker process a) (kept : Undisturbed process a b) :
    Queued worker process b := by
  obtain ⟨here,elsewhere,sent,refusals⟩ := queued
  refine ⟨?_,fun other different => ?_,kept.sent.trans sent,kept.refusals.trans refusals⟩
  · have moved := kept.places worker
    rcases moved with same | ⟨-,refused | admitted⟩
    · rw [same]; exact here
    · exact .inr (.inl refused)
    · exact .inr (.inr admitted)
  · have moved := kept.places other
    rw [elsewhere other different] at moved
    exact moves_outside moved

theorem wp_admitted {worker : Nat} (queued : Queued worker process w) :
    wp (sys workers rounds) contract process (perform (.admitted worker))
      (Admittance worker process) w := by
  apply wp_perform
  intro a relied inv choice b answer _ handled
  obtain ⟨here,elsewhere,sent,refusals⟩ := queued_stable queued relied
  have told : (a.queue worker).settled process = (placeOf a worker process).settled := rfl
  simp only [handle,told] at handled
  rcases here with queued | refused | admitted
  · rw [queued] at handled
    cases handled
  · rw [refused] at handled
    cases handled
    refine ⟨inv,fun _ _ => undisturbed_refl,?_,fun _ => .inl sent⟩
    intro other
    by_cases same : other = worker
    · rw [same,refused]; exact ⟨rfl,rfl⟩
    · rw [elsewhere other same]; exact ⟨rfl,rfl⟩
  · rw [admitted] at handled
    cases handled
    refine ⟨inv,fun _ _ => undisturbed_refl,⟨⟨?_,?_,elsewhere⟩,by rw [sent]; exact List.not_mem_nil,refusals⟩,sent⟩
    · rw [admitted]; rfl
    · rw [admitted]; rfl

theorem wp_queueAcquire {worker : Nat} {deadline : Time} (fresh : Fresh process w) :
    wp (sys workers rounds) contract process (queueAcquire worker deadline)
      (Admittance worker process) w := by
  refine (wp_bind _ _ _ _).mpr ?_
  apply wp_perform
  intro a relied inv choice b answer _ handled
  have still := fresh_stable _ _ fresh relied inv
  simp only [handle] at handled
  split at handled
  · cases handled
    exact ⟨inv,fun _ _ => undisturbed_refl,ended_of_fresh still⟩
  · rename_i queue seat acquired
    cases handled
    obtain ⟨accounts,own,others⟩ := accounts_acquire (inv.accounts worker) (still.outside worker) acquired
    have elsewhere : ∀ other, other ≠ worker → placeOf (a.reseat worker queue
        (if seat then insert process (a.holders worker) else a.holders worker)) other process = .outside := by
      intro other different
      rw [placeOf_reseat,if_neg different]
      exact still.outside other
    have here : placeOf (a.reseat worker queue
        (if seat then insert process (a.holders worker) else a.holders worker)) worker process =
          if seat then .seated else .queued := by
      rw [placeOf_reseat,if_pos rfl]
      exact own
    refine ⟨reseat_settles inv accounts,fun other different => undisturbed_reseat (.inl (others other different)),?_⟩
    cases seat with
    | true =>
      refine ⟨⟨⟨?_,?_,elsewhere⟩,?_,still.refusals⟩,still.sent⟩
      · rw [here]; rfl
      · rw [here]; rfl
      · change .release process ∉ a.sent process
        rw [still.sent]
        exact List.not_mem_nil
    | false => exact wp_admitted ⟨.inl here,elsewhere,still.sent,still.refusals⟩

theorem wp_leave {worker : Nat} (seated : Seated worker process w) (done : Done process w) :
    wp (sys workers rounds) contract process (perform (.leave worker))
      (fun result w => result = .ok () ∧ Ended process w) w := by
  apply wp_perform
  intro a relied inv choice b answer _ handled
  have still := seated_stable seated relied
  cases handled
  have holds : process ∈ a.holders worker := by simpa [placeOf,place] using still.1
  obtain ⟨accounts,own,others⟩ := accounts_release (a.clock worker) holds (inv.accounts worker)
  refine ⟨reseat_settles inv accounts,fun other different => undisturbed_reseat (others other different),rfl,?_,?_⟩
  · intro other
    rw [placeOf_reseat]
    split
    · rw [own]; exact ⟨rfl,rfl⟩
    · rename_i different
      rw [still.2.2 other different]
      exact ⟨rfl,rfl⟩
  · have kept := done_stable done relied
    exact kept

theorem wp_offer {offer : Offer} (fresh : Fresh process w) :
    wp (sys workers rounds) contract process (withPermit (workers offer.worker) offer process rounds)
      (fun _ w => Ended process w) w := by
  refine (wp_bind _ _ _ _).mpr (wp_mono ?_ (wp_only fresh_stable ((only_call _).mpr (steady_still
    (show Still (.entered offer) from trivial))) fresh))
  rintro (_ | seen) a fresh
  · exact ended_of_fresh fresh
  refine (wp_bind _ _ _ _).mpr (wp_mono ?_ (wp_queueAcquire fresh))
  rintro (_ | _) b admitted
  · exact admitted
  refine (wp_ensure _ _ _ _).mpr (wp_mono ?_
    (?_ : wp _ _ _ _ (fun _ w => Seated offer.worker process w ∧ Done process w) b))
  · rintro result c ⟨seated,done⟩
    refine wp_mono ?_ (wp_leave seated done)
    rintro _ d ⟨rfl,ended⟩
    exact ended
  · have reading : Only (Steady (sys workers rounds) contract)
        (checkWaiting offer.worker ((workers offer.worker).deadline seen)) :=
      checkWaiting_only (steady_still (show Still (.now offer.worker) from trivial))
    refine (wp_bind _ _ _ _).mpr (wp_mono ?_ (wp_only (fun a b admitted kept inv =>
      ⟨before_stable a b admitted.1 kept inv,kept.sent.trans admitted.2⟩) reading admitted))
    rintro (_ | _) c ⟨before,nothing⟩
    · exact ⟨before.seated,fun _ => .inl nothing⟩
    · exact wp_acquireAndRun before

theorem keeps : Keeps (sys workers rounds) contract fun process _ w => Ended process w where
  reflexive _ _ := undisturbed_refl
  transitive _ _ _ _ := undisturbed_trans
  stable _ _ _ _ ended kept _ := ⟨gone_stable ended.1 kept,done_stable ended.2 kept⟩
  idles _ a b idle kept inv := by
    obtain ⟨sent,refusals,outside⟩ := fresh_stable a b ⟨idle.1,idle.2.1,idle.2.2⟩ kept inv
    exact ⟨sent,refusals,outside⟩
  arrives process offer a b inv idle arrived := by
    obtain rfl := @arrive_same process offer _ _ arrived
    exact ⟨inv,fun _ _ => undisturbed_refl,wp_offer ⟨idle.1,idle.2.1,idle.2.2⟩⟩
  moves event a b inv _ happened := by
    cases event with
    | execute process place time =>
      obtain ⟨script,sent,rfl⟩ := Option.map_eq_some_iff.mp happened
      exact ⟨execute_settles inv sent,
        fun other => ⟨rfl,fun _ member => List.mem_cons_of_mem _ member,rfl,fun _ => moves_refl _⟩⟩
    | timer worker process =>
      cases happened
      obtain ⟨accounts,others⟩ := accounts_expire process (inv.accounts worker)
      exact ⟨reseat_settles inv accounts,fun other => undisturbed_reseat (others other)⟩
    | interactive worker request deadline read later =>
      simp only [sys,environment] at happened
      split at happened
      · cases happened
      split at happened <;> cases happened
      · exact ⟨inv,fun _ => undisturbed_refl⟩
      · exact ⟨settles_same inv ⟨rfl,rfl,rfl,rfl,rfl⟩,fun _ => undisturbed_same ⟨rfl,rfl,rfl,rfl,rfl⟩ rfl⟩
    | clock worker time =>
      cases happened
      exact ⟨settles_same inv ⟨rfl,rfl,rfl,rfl,rfl⟩,fun _ => undisturbed_same ⟨rfl,rfl,rfl,rfl,rfl⟩ rfl⟩

theorem settles_empty : Settles World.empty where
  accounts _ := accounts_empty
  own _ _ member := by cases member
  answers _ _ _ member := by cases member
  ordered _ _ _ _ release := by cases release
  absent _ _ _ := AList.lookup_empty _

end

/-- In every run, for all settings, clocks and waiting times: an operation starts
    before the latest time of its call; an offer that fails with an exception of
    this code has not started its operation; an offer that is over stands in no
    queue and holds no slot, and the slots that count as taken are those of offers
    that hold one; and where Redis has served the scripts in turn, it has no field
    in the hash unless three releases were refused. -/
theorem no_late_dispatch (workers : Nat → Coordinator) (rounds : Nat) {actions : List (Action Choice Offer Env)}
    {m : Machine Cmd Ret Error Unit World}
    (reached : run (step (sys workers rounds)) (Machine.initial World.empty) actions = some m) :
    (∀ process time, (process,time) ∈ m.world.started →
      ∃ seen, m.world.calls process = some seen ∧ time < OfferDeadlines.latest workers seen) ∧
    (∀ process error, (m.thread process).ended = some (.error error) → error.message.isSome →
      ∀ time, (process,time) ∉ m.world.started) ∧
    (∀ process, (m.thread process).ended.isSome →
      (∀ worker, process ∉ m.world.holders worker ∧ process ∉ (m.world.queue worker).waiting ∧
        (m.world.queue worker).active = (m.world.holders worker).card) ∧
      (InTurn m.world → m.world.refusals process < 3 → m.world.hash.lookup (.owner process) = none)) := by
  have timely := OfferDeadlines.reachable_safe reached
  have safe : Safe (sys workers rounds) contract (fun process _ w => Ended process w) m :=
    run_safe keeps (safe_initial settles_empty fun _ => ⟨rfl,rfl,fun _ => rfl⟩)
      (along_of_forall fun _ _ _ => considered_free (fun _ _ _ _ => trivial) fun _ _ => trivial) reached
  refine ⟨timely.inv,?_,?_⟩
  · intro process error ended own time member
    exact safe_ended timely ended error rfl own ⟨time,member⟩
  · intro process finished
    obtain ⟨result,at_⟩ := Option.isSome_iff_exists.mp finished
    obtain ⟨gone,done⟩ : Ended process m.world := safe_ended safe at_
    refine ⟨fun worker => ?_,fun inTurn few => safe.inv.absent inTurn process (done few)⟩
    obtain ⟨waiting,holding⟩ := gone worker
    simp only [placeOf,place,decide_eq_false_iff_not] at waiting holding
    exact ⟨holding,waiting,(safe.inv.accounts worker).count⟩

def thrown : Except Error Unit → Option Error
  | .ok _ => none
  | .error error => some error
/-- The offer 0 of a request is admitted and runs at 500; the offer 1 is called
    then, and its turn comes too late. -/
def lateOffer : List (Action Choice Offer Env) :=
  [[.environment (.interactive 0 7 .undefined 1000 1000),.start 0 ⟨0,some 7,none⟩],
    List.replicate 5 (.advance 0 .resolves),[.environment (.execute 0 0 ⟨100,0⟩),.advance 0 (.answers 1)],
    List.replicate 2 (.advance 0 .resolves),[.environment (.execute 0 1 ⟨101,0⟩),.advance 0 (.answers 1)],
    [.environment (.clock 0 500)],List.replicate 3 (.advance 0 .resolves),
    [.environment (.execute 0 2 ⟨102,0⟩),.advance 0 (.answers 1),.advance 0 .resolves],
    [.start 1 ⟨0,none,none⟩,.advance 1 .resolves,.environment (.clock 0 2000),.advance 1 .resolves]].flatten

theorem no_late_dispatch_refused :
    ∃ m, run (step (sys (fun _ => .standard) 1)) (Machine.initial World.empty) lateOffer = some m ∧
      (∃ seen, m.world.calls 0 = some seen ∧ 500 < OfferDeadlines.latest (fun _ => .standard) seen) ∧
      (∀ time, (1,time) ∉ m.world.started) ∧ 0 ∉ m.world.holders 0 ∧ m.world.hash.lookup (.owner 0) = none := by
  have runs : ((run (step (sys (fun _ => .standard) 1)) (Machine.initial World.empty) lateOffer).map fun m =>
      (m.world.started,decide (InTurn m.world ∧ m.world.refusals 0 < 3),(m.thread 0).ended.isSome,
        (m.thread 1).ended.map thrown)) = some ([(0,500)],true,true,some (some .waitExceeded)) := by decide +kernel
  obtain ⟨m,reached,found⟩ := Option.map_eq_some_iff.mp runs
  simp only [Prod.mk.injEq,decide_eq_true_eq] at found
  obtain ⟨started,⟨inTurn,few⟩,finished,refused⟩ := found
  obtain ⟨inTime,truthful,settled⟩ := no_late_dispatch (fun _ => .standard) 1 reached
  obtain ⟨free,cleared⟩ := settled 0 finished
  refine ⟨m,reached,inTime 0 500 (by rw [started]; exact List.mem_cons_self),?_,(free 0).1,cleared inTurn few⟩
  obtain ⟨_ | _,ended,same⟩ := Option.map_eq_some_iff.mp refused
  · cases same
    exact truthful 1 _ ended rfl
  · cases same

end Ngotag.OfferSettling
