import Ngotag.Serial

/-!
A table at READ COMMITTED. A transaction sees what is committed and what it wrote
itself; a row it wrote is locked until it ends; at its commit the versions it wrote
take the place of the committed ones. `Table.Kept` is what the others leave to an open
transaction.
-/
namespace Ngotag.ReadCommitted
open Await

structure Table (Row : Type) where
  committed : Nat → Option Row
  /-- The version that an open transaction wrote, with its process: the row is locked. -/
  pending : Nat → Option (Nat × Row)
  /-- Every key that was ever drawn. -/
  keys : List Nat
  listed : ∀ key, (committed key).isSome ∨ (pending key).isSome → key ∈ keys

section
variable {Row : Type} (t : Table Row) (process : Nat)

def Table.seen (key : Nat) : Option Row :=
  if let some (owner,row) := t.pending key then (if owner = process then some row else t.committed key)
  else t.committed key
def Table.locked (key : Nat) : Bool := (t.pending key).any fun version => version.1 ≠ process
/-- The keys of the rows that a process sees and that pass the test. -/
def Table.select (test : Row → Bool) : List Nat := t.keys.filter fun key => (t.seen process key).any test

/-- A new version of a row, in the transaction of the process. -/
def Table.write (key : Nat) (row : Row) : Table Row where
  committed := t.committed
  pending := Function.update t.pending key (some (process,row))
  keys := key :: t.keys
  listed := by
    rintro other (there | there)
    · exact List.mem_cons_of_mem _ (t.listed other (.inl there))
    · by_cases same : other = key
      · exact same ▸ List.mem_cons_self
      · rw [Function.update_of_ne same] at there
        exact List.mem_cons_of_mem _ (t.listed other (.inr there))

def Table.others (key : Nat) : Option (Nat × Row) := (t.pending key).filter fun version => version.1 ≠ process
theorem Table.others_listed {key : Nat} (there : (t.others process key).isSome) : (t.pending key).isSome := by
  obtain ⟨version,held⟩ := Option.isSome_iff_exists.mp there
  exact Option.isSome_iff_exists.mpr ⟨version,(Option.filter_eq_some_iff.mp held).1⟩

def Table.commit : Table Row where
  committed := t.seen process
  pending := t.others process
  keys := t.keys
  listed := by
    rintro key (there | there)
    · unfold Table.seen at there
      cases held : t.pending key with
      | none => rw [held] at there; exact t.listed key (.inl there)
      | some version => exact t.listed key (.inr (by rw [held]; rfl))
    · exact t.listed key (.inr (t.others_listed process there))

def Table.rollback : Table Row where
  committed := t.committed
  pending := t.others process
  keys := t.keys
  listed := by
    rintro key (there | there)
    · exact t.listed key (.inl there)
    · exact t.listed key (.inr (t.others_listed process there))

/-- A row put in outside of any transaction. -/
def Table.insert (key : Nat) (row : Row) : Table Row where
  committed := Function.update t.committed key (some row)
  pending := t.pending
  keys := key :: t.keys
  listed := by
    rintro other (there | there)
    · by_cases same : other = key
      · exact same ▸ List.mem_cons_self
      · rw [Function.update_of_ne same] at there
        exact List.mem_cons_of_mem _ (t.listed other (.inl there))
    · exact List.mem_cons_of_mem _ (t.listed other (.inr there))

/-- A row deleted outside of any transaction, which waits until nobody holds it. -/
def Table.erase (key : Nat) : Table Row where
  committed := Function.update t.committed key none
  pending := t.pending
  keys := t.keys
  listed := by
    rintro other (there | there)
    · by_cases same : other = key
      · subst same
        rw [Function.update_self] at there
        cases there
      · rw [Function.update_of_ne same] at there
        exact t.listed other (.inl there)
    · exact t.listed other (.inr there)

variable {t process} {key other : Nat} {row : Row}
theorem Table.seen_of_pending (held : t.pending key = some (process,row)) : t.seen process key = some row := by
  simp [Table.seen,held]
theorem Table.seen_of_free (free : ∀ row, t.pending key ≠ some (process,row)) :
    t.seen process key = t.committed key := by
  unfold Table.seen
  cases held : t.pending key with
  | none => rfl
  | some version =>
    have different : version.1 ≠ process := by
      rintro rfl
      exact free version.2 held
    simp [different]
theorem Table.not_locked (free : t.locked process key = false) {owner : Nat} {row : Row}
    (held : t.pending key = some (owner,row)) : owner = process := by
  simpa [Table.locked,held] using free
theorem Table.others_some {version : Nat × Row} :
    t.others process key = some version ↔ t.pending key = some version ∧ version.1 ≠ process := by
  simp [Table.others,Option.filter_eq_some_iff]
theorem Table.undrawn {Row : Type} {t : Table Row} {key : Nat} (fresh : key ∉ t.keys) :
    t.seen process key = none ∧ t.locked process key = false := by
  have free : t.pending key = none := by
    by_contra there
    exact fresh (t.listed key (.inr (Option.isSome_iff_ne_none.mpr there)))
  have gone : t.committed key = none := by
    by_contra there
    exact fresh (t.listed key (.inl (Option.isSome_iff_ne_none.mpr there)))
  exact ⟨by simp [Table.seen,free,gone],by simp [Table.locked,free]⟩

/-- What the others leave to an open transaction: its versions, and the committed rows
    that it holds. -/
structure Table.Kept (process : Nat) (a b : Table Row) : Prop where
  own : ∀ key row, b.pending key = some (process,row) ↔ a.pending key = some (process,row)
  held : ∀ key row, a.pending key = some (process,row) → b.committed key = a.committed key
theorem Table.kept_refl : Table.Kept process t t := ⟨fun _ _ => Iff.rfl,fun _ _ _ => rfl⟩
theorem Table.kept_trans {a b c : Table Row} (first : Table.Kept process a b) (second : Table.Kept process b c) :
    Table.Kept process a c :=
  ⟨fun key row => (second.own key row).trans (first.own key row),fun key row held =>
    (second.held key row ((first.own key row).mpr held)).trans (first.held key row held)⟩

variable {mine : Nat}
theorem Table.kept_write (different : mine ≠ process) (free : t.locked process key = false) :
    Table.Kept mine t (t.write process key row) := by
  refine ⟨fun other version => ?_,fun _ _ _ => rfl⟩
  by_cases same : other = key
  · subst same
    have mine_not : t.pending other ≠ some (mine,version) := fun held => different (Table.not_locked free held)
    simp only [Table.write,Function.update_self,Option.some.injEq,Prod.mk.injEq,mine_not,iff_false]
    exact fun both => different both.1.symm
  · simp [Table.write,Function.update_of_ne same]
theorem Table.kept_others (different : mine ≠ process) (key : Nat) (row : Row) :
    t.others process key = some (mine,row) ↔ t.pending key = some (mine,row) := by
  rw [Table.others_some]
  exact ⟨fun both => both.1,fun held => ⟨held,different⟩⟩
theorem Table.kept_commit (different : mine ≠ process) : Table.Kept mine t (t.commit process) := by
  refine ⟨Table.kept_others different,fun key row held => ?_⟩
  simp [Table.commit,Table.seen,held,different]
theorem Table.kept_rollback (different : mine ≠ process) : Table.Kept mine t (t.rollback process) :=
  ⟨Table.kept_others different,fun _ _ _ => rfl⟩
theorem Table.kept_insert (fresh : key ∉ t.keys) : Table.Kept mine t (t.insert key row) := by
  refine ⟨fun _ _ => Iff.rfl,fun other version held => ?_⟩
  have different : other ≠ key := by
    rintro rfl
    exact fresh (t.listed other (.inr (by rw [held]; rfl)))
  simp [Table.insert,Function.update_of_ne different]
theorem Table.kept_erase (free : t.pending key = none) : Table.Kept mine t (t.erase key) := by
  refine ⟨fun _ _ => Iff.rfl,fun other version held => ?_⟩
  have apart : other ≠ key := by
    rintro rfl
    rw [free] at held
    cases held
  simp [Table.erase,Function.update_of_ne apart]

end
section
variable {Row : Type} (t : Table Row) (test : Row → Bool) (process key : Nat)

/-- Another transaction has to end before it is known whether a row that passes the test
    may be written. -/
def Table.undecided : Bool :=
  t.keys.any fun other => other ≠ key && (t.pending other).any fun version =>
    version.1 ≠ process && (test version.2 || (t.committed other).any test)
/-- Another row that passes the test is there. -/
def Table.violated : Bool := t.keys.any fun other => other ≠ key && (t.seen process other).any test
/-- One row passes the test at most, and a transaction that writes such a row wrote
    every other row that passes it. -/
structure Table.Unique : Prop where
  one : ∀ i j r s, t.committed i = some r → test r = true → t.committed j = some s → test s = true → i = j
  exclusive : ∀ p q i j r s, t.pending i = some (p,r) → test r = true → t.pending j = some (q,s) → test s = true → i = j
  covers : ∀ p i j r s, t.pending i = some (p,r) → test r = true → t.committed j = some s → test s = true →
    ∃ v, t.pending j = some (p,v)

variable {t test process key} {row : Row}
theorem Table.undecided_false (decided : t.undecided test process key = false) {i owner : Nat} {version : Row}
    (held : t.pending i = some (owner,version)) (apart : i ≠ key) (different : owner ≠ process) :
    test version = false ∧ ∀ old, t.committed i = some old → test old = false := by
  have listed : i ∈ t.keys := t.listed i (.inr (by rw [held]; rfl))
  simp only [Table.undecided,List.any_eq_false] at decided
  have none_ := decided i listed
  simp only [apart,held,different,ne_eq,not_false_eq_true,decide_true,Bool.true_and,Option.any_some,Bool.or_eq_true,
    not_or,Bool.not_eq_true] at none_
  exact ⟨none_.1,fun old there => by simpa [there] using none_.2⟩
theorem Table.violated_false (free : t.violated test process key = false) {i : Nat} {version : Row}
    (found : t.seen process i = some version) (apart : i ≠ key) : test version = false := by
  have listed : i ∈ t.keys := by
    refine t.listed i ?_
    unfold Table.seen at found
    cases held : t.pending i with
    | none => simp only [held] at found; exact .inl (by rw [found]; rfl)
    | some version => exact .inr rfl
  simp only [Table.violated,List.any_eq_false] at free
  simpa [apart,found] using free i listed
theorem Table.write_pending {i owner : Nat} {version : Row}
    (held : (t.write process key row).pending i = some (owner,version)) :
    (i = key ∧ owner = process ∧ version = row) ∨ i ≠ key ∧ t.pending i = some (owner,version) := by
  simp only [Table.write] at held
  by_cases same : i = key
  · subst same
    simp only [Function.update_self,Option.some.injEq,Prod.mk.injEq] at held
    exact .inl ⟨rfl,held.1.symm,held.2.symm⟩
  · rw [Function.update_of_ne same] at held
    exact .inr ⟨same,held⟩
theorem Table.write_keeps {i : Nat} {version : Row} (held : t.pending i = some (process,version)) :
    ∃ v, (t.write process key row).pending i = some (process,v) := by
  by_cases same : i = key
  · exact ⟨row,by simp only [Table.write,same,Function.update_self]⟩
  · exact ⟨version,by simp only [Table.write,Function.update_of_ne same,held]⟩
theorem Table.covers_write (unique : t.Unique test) (free : t.locked process key = false) {owner i j : Nat} {r s : Row}
    (held : t.pending i = some (owner,r)) (passes : test r = true) (there : t.committed j = some s)
    (passes' : test s = true) : ∃ v, (t.write process key row).pending j = some (owner,v) := by
  obtain ⟨v,covered⟩ := unique.covers owner i j r s held passes there passes'
  by_cases same : j = key
  · subst same
    obtain rfl := Table.not_locked free covered
    exact Table.write_keeps covered
  · exact ⟨v,by simp only [Table.write,Function.update_of_ne same,covered]⟩

theorem Table.unique_plain (unique : t.Unique test) (free : t.locked process key = false) (plain : test row = false) :
    (t.write process key row).Unique test := by
  refine ⟨unique.one,?_,?_⟩
  · intro p q i j r s held passes held' passes'
    rcases Table.write_pending held with ⟨-,-,rfl⟩ | ⟨-,before⟩
    · rw [plain] at passes
      cases passes
    rcases Table.write_pending held' with ⟨-,-,rfl⟩ | ⟨-,before'⟩
    · rw [plain] at passes'
      cases passes'
    exact unique.exclusive p q i j r s before passes before' passes'
  · intro p i j r s held passes there passes'
    rcases Table.write_pending held with ⟨-,-,rfl⟩ | ⟨-,before⟩
    · rw [plain] at passes
      cases passes
    exact Table.covers_write unique free before passes there passes'

theorem Table.unique_write (unique : t.Unique test) (free : t.locked process key = false)
    (decided : t.undecided test process key = false) (fits : t.violated test process key = false) :
    (t.write process key row).Unique test := by
  -- No other row, committed or not, passes the test but in a version that is replaced.
  have alone : ∀ p i r, t.pending i = some (p,r) → test r = true → i = key := by
    intro p i r held passes
    by_contra apart
    by_cases own : p = process
    · subst own
      rw [Table.violated_false fits (Table.seen_of_pending held) apart] at passes
      cases passes
    · rw [(Table.undecided_false decided held apart own).1] at passes
      cases passes
  refine ⟨unique.one,?_,?_⟩
  · intro p q i j r s held passes held' passes'
    have first : i = key := by
      rcases Table.write_pending held with ⟨same,-,-⟩ | ⟨-,before⟩
      · exact same
      · exact alone p i r before passes
    rcases Table.write_pending held' with ⟨same,-,-⟩ | ⟨-,before⟩
    · exact first.trans same.symm
    · exact first.trans (alone q j s before passes').symm
  · intro p i j r s held passes there passes'
    rcases Table.write_pending held with ⟨rfl,rfl,rfl⟩ | ⟨-,before⟩
    · by_cases same : j = i
      · exact ⟨r,by simp only [Table.write,same,Function.update_self]⟩
      cases held' : t.pending j with
      | none =>
        have found : t.seen p j = some s :=
            (Table.seen_of_free fun _ held => by rw [held'] at held; cases held).trans there
        rw [Table.violated_false fits found same] at passes'
        cases passes'
      | some version =>
        obtain ⟨owner,v⟩ := version
        by_cases own : owner = p
        · subst own
          exact Table.write_keeps held'
        · rw [(Table.undecided_false decided held' same own).2 s there] at passes'
          cases passes'
    · exact Table.covers_write unique free before passes there passes'

theorem Table.unique_rollback (unique : t.Unique test) : (t.rollback process).Unique test := by
  refine ⟨unique.one,?_,?_⟩
  · intro p q i j r s held passes held' passes'
    exact unique.exclusive p q i j r s (Table.others_some.mp held).1 passes (Table.others_some.mp held').1 passes'
  · intro p i j r s held passes there passes'
    obtain ⟨before,different⟩ := Table.others_some.mp held
    obtain ⟨v,covered⟩ := unique.covers p i j r s before passes there passes'
    exact ⟨v,Table.others_some.mpr ⟨covered,different⟩⟩
theorem Table.commit_cases {i : Nat} {r : Row} (found : (t.commit process).committed i = some r) :
    t.pending i = some (process,r) ∨ t.committed i = some r ∧ ∀ v, t.pending i ≠ some (process,v) := by
  change t.seen process i = some r at found
  by_cases own : ∃ v, t.pending i = some (process,v)
  · obtain ⟨v,held⟩ := own
    rw [Table.seen_of_pending held,Option.some.injEq] at found
    exact .inl (found ▸ held)
  · have free : ∀ v, t.pending i ≠ some (process,v) := fun v held => own ⟨v,held⟩
    rw [Table.seen_of_free free] at found
    exact .inr ⟨found,free⟩

theorem Table.unique_commit (unique : t.Unique test) : (t.commit process).Unique test := by
  refine ⟨?_,?_,?_⟩
  · intro i j r s first passes second passes'
    rcases Table.commit_cases first with held | ⟨there,free⟩
    · rcases Table.commit_cases second with held' | ⟨there',free'⟩
      · exact unique.exclusive _ _ i j r s held passes held' passes'
      · obtain ⟨v,covered⟩ := unique.covers _ i j r s held passes there' passes'
        exact absurd covered (free' v)
    · rcases Table.commit_cases second with held' | ⟨there',-⟩
      · obtain ⟨v,covered⟩ := unique.covers _ j i s r held' passes' there passes
        exact absurd covered (free v)
      · exact unique.one i j r s there passes there' passes'
  · intro p q i j r s held passes held' passes'
    exact unique.exclusive p q i j r s (Table.others_some.mp held).1 passes (Table.others_some.mp held').1 passes'
  · intro p i j r s held passes found passes'
    obtain ⟨before,different⟩ := Table.others_some.mp held
    rcases Table.commit_cases found with own | ⟨there,-⟩
    · obtain rfl := unique.exclusive p process i j r s before passes own passes'
      cases before.symm.trans own
      exact absurd rfl different
    · obtain ⟨v,covered⟩ := unique.covers p i j r s before passes there passes'
      exact ⟨v,Table.others_some.mpr ⟨covered,different⟩⟩

end
variable {Cmd : Type} {Ret : Cmd → Type} {ε β : Type}

/-- `prisma.$transaction`: an exception of the body rolls back. -/
def transaction (begin_ rollback commit : Prog Cmd Ret ε Unit) (body : Prog Cmd Ret ε β) : Prog Cmd Ret ε β := do
  begin_
  let value ← body.tryCatch fun error => do
    rollback
    throw error
  commit
  pure value

end Ngotag.ReadCommitted
