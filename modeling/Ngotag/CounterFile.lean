import Ngotag.Runs
import Mathlib.Logic.Function.Basic

/-!
A number in a file that clients count up without a lock. A client looks whether the file exists, makes it if it does
not, reads the number and writes the next one, which is its value. As long as nobody reads between a read and its
write, and no file that is in use is made anew, the values are distinct and the file only rises (`step_sound`).
-/
namespace Ngotag.CounterFile

inductive At where
  | test
  | create
  | read
  | write (value : Nat)
  | left (value : Nat)

structure Counter where
  /-- What was written to the file, the latest first; nothing while it does not exist. -/
  file : List Nat
  client : Nat → Option At
def Counter.goes (c : Counter) (i : Nat) (at_ : At) : Counter :=
  { c with client := Function.update c.client i (some at_) }
def Counter.put (c : Counter) (value : Nat) : Counter := { c with file := value :: c.file }
def Counter.value (c : Counter) (i : Nat) : Option Nat :=
  match c.client i with
  | some (.write value) => some value
  | some (.left value) => some value
  | _ => none

variable (next : Nat → Nat) (initial : Nat)
/-- The next operation of a client; each is atomic. -/
def step (c : Counter) (i : Nat) : Option Counter :=
  match c.client i with
  | none => some (c.goes i .test)
  | some .test => some (c.goes i (if c.file = [] then .create else .read))
  | some .create => some ((c.put initial).goes i .read)
  | some .read => c.file.head?.map fun last => c.goes i (.write (next last))
  | some (.write value) => some ((c.put value).goes i (.left value))
  | some (.left _) => none

/-- The client does not read while another has read and not written yet, and makes no file anew that holds more. -/
def Meets (c : Counter) (i : Nat) : Prop :=
  match c.client i with
  | some .read => ∀ other value, c.client other ≠ some (.write value)
  | some .create => ∀ last, c.file.head? = some last → last ≤ initial
  | _ => True

/-- The file begins with `base`, or does not exist and is made with it. -/
structure Sound (base : Nat) (c : Counter) : Prop where
  sorted : c.file.Pairwise fun later earlier => earlier ≤ later
  least : ∀ last ∈ c.file, base ≤ last
  made : c.file = [] → base = initial
  creates : ∀ i, c.client i = some .create → base = initial
  reads : ∀ i, c.client i = some .read → c.file ≠ []
  writes : ∀ i value, c.client i = some (.write value) → ∃ last, c.file.head? = some last ∧ value = next last
  single : ∀ i j value other, c.client i = some (.write value) → c.client j = some (.write other) → i = j
  lefts : ∀ i value, c.client i = some (.left value) → ∃ last, c.file.head? = some last ∧ value ≤ last
  above : ∀ i value, c.value i = some value → base < value
  distinct : ∀ i j value, c.value i = some value → c.value j = some value → i = j

variable {next initial}
variable {base i : Nat} {c after : Counter}
theorem goes_client {at_ : At} (j : Nat) : (c.goes i at_).client j = if j = i then some at_ else c.client j := by
  change Function.update c.client i (some at_) j = _
  rw [Function.update_apply]
theorem value_goes {at_ : At} (j : Nat) : (c.goes i at_).value j =
    if j = i then (match at_ with | .write value => some value | .left value => some value | _ => none) else c.value j := by
  unfold Counter.value
  rw [goes_client]
  by_cases here : j = i
  · rw [if_pos here,if_pos here]
    cases at_ <;> rfl
  · rw [if_neg here,if_neg here]

theorem head_le (sorted : c.file.Pairwise fun later earlier => earlier ≤ later) {last : Nat}
    (latest : c.file.head? = some last) :
    ∀ earlier ∈ c.file, earlier ≤ last := by
  cases file : c.file with
  | nil => nofun
  | cons first rest =>
    rw [file,List.head?_cons,Option.some.injEq] at latest
    subst latest
    rw [file,List.pairwise_cons] at sorted
    intro earlier listed
    rcases List.mem_cons.mp listed with rfl | before
    · exact Nat.le_refl _
    · exact sorted.1 earlier before

theorem sound_quiet {at_ : At} (sound : Sound next initial base c) (valueless : c.value i = none)
    (creates : at_ = .create → base = initial) (reads : at_ = .read → c.file ≠ [])
    (still : ∀ value, at_ ≠ .write value ∧ at_ ≠ .left value) : Sound next initial base (c.goes i at_) := by
  have same (j value : Nat) : (c.goes i at_).value j = some value ↔ c.value j = some value := by
    rw [value_goes]
    by_cases here : j = i
    · subst here
      rw [if_pos rfl,valueless]
      cases at_ with
      | write value => exact absurd rfl (still value).1
      | left value => exact absurd rfl (still value).2
      | _ => rfl
    · rw [if_neg here]
  have other {j : Nat} {place : At} (at_j : (c.goes i at_).client j = some place) : place = at_ ∨
      c.client j = some place := by
    rw [goes_client] at at_j
    split at at_j
    · exact .inl (Option.some.inj at_j).symm
    · exact .inr at_j
  refine ⟨sound.sorted,sound.least,sound.made,fun j creating => ?_,fun j reading => ?_,fun j value writing => ?_,
    fun j k value value' one two => ?_,fun j value leaving => ?_,fun j value is => ?_,fun j k value one two => ?_⟩
  · exact (other creating).elim (fun own => creates own.symm) (sound.creates j)
  · exact (other reading).elim (fun own => reads own.symm) (sound.reads j)
  · exact (other writing).elim (fun own => absurd own.symm (still value).1) (sound.writes j value)
  · have one := (other one).resolve_left fun own => absurd own.symm (still value).1
    have two := (other two).resolve_left fun own => absurd own.symm (still value').1
    exact sound.single j k value value' one two
  · exact (other leaving).elim (fun own => absurd own.symm (still value).2) (sound.lefts j value)
  · exact sound.above j value ((same j value).mp is)
  · exact sound.distinct j k value ((same j value).mp one) ((same k value).mp two)

theorem sound_created (sound : Sound next initial base c) (creating : c.client i = some .create)
    (fresh : ∀ last, c.file.head? = some last → last ≤ initial) :
    Sound next initial base ((c.put initial).goes i .read) := by
  have made := sound.creates i creating
  have all : ∀ earlier ∈ c.file, earlier ≤ initial := by
    intro earlier listed
    obtain ⟨last,latest⟩ : ∃ last, c.file.head? = some last := by
      cases file : c.file with
      | nil => exact absurd (file ▸ listed) List.not_mem_nil
      | cons first rest => exact ⟨first,rfl⟩
    exact Nat.le_trans (head_le sound.sorted latest earlier listed) (fresh last latest)
  -- a client that has read has read what is written again
  have put : Sound next initial base (c.put initial) := by
    refine ⟨List.pairwise_cons.mpr ⟨all,sound.sorted⟩,fun last listed => ?_,nofun,sound.creates,fun j _ => nofun,
      fun j value writing => ?_,sound.single,fun j value leaving => ?_,sound.above,sound.distinct⟩
    · rcases List.mem_cons.mp listed with rfl | before
      · exact Nat.le_of_eq made
      · exact sound.least last before
    · obtain ⟨last,latest,rfl⟩ := sound.writes j value writing
      have same : last = initial := by
        have low := sound.least last (List.mem_of_mem_head? latest)
        have high := fresh last latest
        omega
      exact ⟨initial,rfl,by rw [same]⟩
    · obtain ⟨last,latest,below⟩ := sound.lefts j value leaving
      exact ⟨initial,rfl,Nat.le_trans below (fresh last latest)⟩
  have valueless : (c.put initial).value i = none := by
    change (match c.client i with | some (.write value) => some value | some (.left value) => some value | _ => none) = none
    rw [creating]
  exact sound_quiet put valueless nofun (fun _ => nofun) fun value => ⟨nofun,nofun⟩

theorem sound_read (grows : ∀ last, last < next last) (sound : Sound next initial base c)
    (alone : ∀ other value, c.client other ≠ some (.write value)) {last : Nat} (latest : c.file.head? = some last) :
    Sound next initial base (c.goes i (.write (next last))) := by
  have value_eq (j : Nat) : (c.goes i (.write (next last))).value j = if j = i then some (next last) else c.value j :=
      value_goes j
  -- all values before are of clients that have left
  have below : ∀ j value, c.value j = some value → value ≤ last := by
    intro j value is
    unfold Counter.value at is
    split at is
    · rename_i writing
      exact absurd writing (alone j _)
    · rename_i leaving
      obtain rfl := Option.some.inj is
      obtain ⟨last',latest',le⟩ := sound.lefts j _ leaving
      obtain rfl := Option.some.inj (latest.symm.trans latest')
      exact le
    · cases is
  have newer := grows last
  refine ⟨sound.sorted,sound.least,sound.made,fun j creating => ?_,fun j reads => ?_,fun j value writing => ?_,
    fun j k value value' one two => ?_,fun j value leaving => ?_,fun j value is => ?_,fun j k value one two => ?_⟩
  · rw [goes_client] at creating
    split at creating
    · cases creating
    · exact sound.creates j creating
  · rw [goes_client] at reads
    split at reads
    · cases reads
    · exact sound.reads j reads
  · rw [goes_client] at writing
    split at writing
    · cases writing
      exact ⟨last,latest,rfl⟩
    · exact absurd writing (alone j value)
  · have own : ∀ l value, (c.goes i (.write (next last))).client l = some (.write value) → l = i := by
      intro l value writing
      rw [goes_client] at writing
      by_contra apart
      rw [if_neg apart] at writing
      exact alone l value writing
    rw [own j value one,own k value' two]
  · rw [goes_client] at leaving
    split at leaving
    · cases leaving
    · exact sound.lefts j value leaving
  · rw [value_eq] at is
    split at is
    · cases is
      exact Nat.lt_of_le_of_lt (sound.least last (List.mem_of_mem_head? latest)) newer
    · exact sound.above j value is
  · rw [value_eq] at one two
    split at one <;> split at two
    · rename_i first second
      rw [first,second]
    · cases one
      have := below k _ two
      omega
    · cases two
      have := below j _ one
      omega
    · exact sound.distinct j k value one two

theorem sound_written (grows : ∀ last, last < next last) (sound : Sound next initial base c) {value : Nat}
    (writing : c.client i = some (.write value)) : Sound next initial base ((c.put value).goes i (.left value)) := by
  obtain ⟨last,latest,rfl⟩ := sound.writes i value writing
  have newer := grows last
  have own : c.value i = some (next last) := by
    unfold Counter.value
    rw [writing]
  have same (j : Nat) : ((c.put (next last)).goes i (.left (next last))).value j = c.value j := by
    rw [value_goes]
    split
    · rename_i here
      rw [here,own]
    · rfl
  have low : base ≤ next last := Nat.le_of_lt (sound.above i _ own)
  have other {j : Nat} {place : At} (at_j : ((c.put (next last)).goes i (.left (next last))).client j = some place) :
      place = .left (next last) ∨ j ≠ i ∧ c.client j = some place := by
    rw [goes_client] at at_j
    split at at_j
    · exact .inl (Option.some.inj at_j).symm
    · rename_i apart
      exact .inr ⟨apart,at_j⟩
  have unwritten {j value : Nat}
      (at_j : ((c.put (next last)).goes i (.left (next last))).client j = some (.write value)) : False := by
    obtain ⟨apart,writes⟩ := (other at_j).resolve_left nofun
    exact apart (sound.single j i value _ writes writing)
  refine ⟨List.pairwise_cons.mpr ⟨fun earlier listed => ?_,sound.sorted⟩,fun early listed => ?_,nofun,
      fun j creating => ?_,
    fun j _ => nofun,fun j value writes => (unwritten writes).elim,fun j k value value' one two => (unwritten one).elim,
    fun j value leaving => ?_,fun j value is => ?_,fun j k value one two => ?_⟩
  · exact Nat.le_trans (head_le sound.sorted latest earlier listed) (Nat.le_of_lt newer)
  · rcases List.mem_cons.mp listed with rfl | before
    · exact low
    · exact sound.least early before
  · exact sound.creates j ((other creating).resolve_left nofun).2
  · rcases other leaving with same | ⟨-,leaves⟩
    · cases same
      exact ⟨next last,rfl,Nat.le_refl _⟩
    · obtain ⟨last',latest',le⟩ := sound.lefts j value leaves
      obtain rfl := Option.some.inj (latest.symm.trans latest')
      exact ⟨next last,rfl,Nat.le_trans le (Nat.le_of_lt newer)⟩
  · exact sound.above j value (same j ▸ is)
  · exact sound.distinct j k value (same j ▸ one) (same k ▸ two)

/-- One operation of one client keeps the values distinct. -/
theorem step_sound (grows : ∀ last, last < next last) (sound : Sound next initial base c) (meets : Meets initial c i)
    (taken : step next initial c i = some after) : Sound next initial base after := by
  unfold step at taken
  unfold Meets at meets
  cases at_ : c.client i with
  | none =>
    rw [at_] at taken
    cases taken
    have valueless : c.value i = none := by rw [Counter.value,at_]
    exact sound_quiet sound valueless nofun nofun fun value => ⟨nofun,nofun⟩
  | some place =>
    rw [at_] at taken meets
    cases place with
    | test =>
      cases taken
      have valueless : c.value i = none := by rw [Counter.value,at_]
      refine sound_quiet sound valueless ?_ ?_ ?_
      · intro created
        by_cases missing : c.file = []
        · exact sound.made missing
        · rw [if_neg missing] at created
          cases created
      · intro reads missing
        rw [if_pos missing] at reads
        cases reads
      · intro value
        split <;> exact ⟨nofun,nofun⟩
    | create =>
      cases taken
      exact sound_created sound at_ meets
    | read =>
      obtain ⟨last,latest,rfl⟩ := Option.map_eq_some_iff.mp taken
      exact sound_read grows sound meets latest
    | write value =>
      cases taken
      exact sound_written grows sound at_
    | left value => cases taken

theorem step_goes (taken : step next initial c i = some after) :
    ∃ file at_, after = ⟨file,Function.update c.client i (some at_)⟩ ∧ ∀ value, after.value i = some value →
      c.value i = some value ∨ c.client i = some .read ∧ ∃ last, c.file.head? = some last ∧ value = next last := by
  unfold step at taken
  cases at_ : c.client i with
  | none =>
    rw [at_] at taken
    cases taken
    refine ⟨_,_,rfl,fun value is => ?_⟩
    rw [value_goes,if_pos rfl] at is
    cases is
  | some place =>
    rw [at_] at taken
    cases place with
    | test =>
      cases taken
      refine ⟨_,_,rfl,fun value is => ?_⟩
      rw [value_goes,if_pos rfl] at is
      by_cases missing : c.file = []
      · rw [if_pos missing] at is
        cases is
      · rw [if_neg missing] at is
        cases is
    | create =>
      cases taken
      refine ⟨_,_,rfl,fun value is => ?_⟩
      rw [value_goes,if_pos rfl] at is
      cases is
    | read =>
      obtain ⟨last,latest,rfl⟩ := Option.map_eq_some_iff.mp taken
      refine ⟨_,_,rfl,fun value is => .inr ⟨rfl,last,latest,?_⟩⟩
      rw [value_goes,if_pos rfl] at is
      exact (Option.some.inj is).symm
    | write value =>
      cases taken
      refine ⟨_,_,rfl,fun other is => .inl ?_⟩
      rw [value_goes,if_pos rfl] at is
      rw [Counter.value,at_]
      exact is
    | left value => cases taken

theorem step_other {j : Nat} (taken : step next initial c i = some after) (apart : j ≠ i) :
    after.client j = c.client j := by
  obtain ⟨file,at_,rfl,-⟩ := step_goes taken
  exact Function.update_of_ne apart _ _

/-- A value that is taken below the bound stays below it. -/
theorem step_bounded {bound : Nat} (bounded : ∀ j value, c.value j = some value → value ≤ bound)
    (room : c.client i = some .read → ∀ last, c.file.head? = some last → next last ≤ bound)
    (taken : step next initial c i = some after) : ∀ j value, after.value j = some value → value ≤ bound := by
  intro j value is
  by_cases own : j = i
  · subst own
    obtain ⟨-,-,-,values⟩ := step_goes taken
    rcases values value is with before | ⟨reading,last,latest,rfl⟩
    · exact bounded j value before
    · exact room reading last latest
  · refine bounded j value ?_
    rw [Counter.value,step_other taken own] at is
    exact is

theorem initial_sound (file : List Nat) (one : file = [base] ∨ file = [] ∧ base = initial) :
    Sound next initial base ⟨file,fun _ => none⟩ where
  sorted := by rcases one with rfl | ⟨rfl,-⟩ <;> simp
  least := by rcases one with rfl | ⟨rfl,-⟩ <;> simp
  made := by rcases one with rfl | ⟨-,same⟩; exact nofun; exact fun _ => same
  creates := nofun
  reads := nofun
  writes := nofun
  single := nofun
  lefts := nofun
  above := nofun
  distinct := nofun

end Ngotag.CounterFile
