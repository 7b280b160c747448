import Mathlib.Data.List.Basic
import Mathlib.Tactic.Tauto
import Mathlib.Algebra.Ring.Nat

/-!
How a POSIX shell reads a line as the words of one simple command, and which
texts come through. A line pasted together of pieces, some between double quotes,
is read as exactly the pieces if and only if each of them is harmless in its
place (`reads_iff`): whatever a quote, a backslash or a blank of a piece does to
the reading, the character itself is missing from the words that come out
(`quotes_le`, `spent_le`, `size_le`).
-/
namespace Ngotag.ShellWords

/-- The characters of a word after quote removal, each with whether it was unquoted. -/
abbrev Word := List (Char × Bool)
def Word.text (w : Word) : List Char := w.map Prod.fst
/-- Where the reader is, with what begins there. -/
inductive Mode where
  | plain
  | single
  | double
  | escape
  | escapeDouble
  deriving DecidableEq

def blank (c : Char) : Bool := c = ' ' || c = '\t'
/-- What ends a command or starts a redirection or a substitution. -/
def operator (c : Char) : Bool :=
  c = '\n' || c = '|' || c = '&' || c = ';' || c = '<' || c = '>' || c = '(' || c = ')'
/-- A dollar sign before the character starts an expansion. -/
def expands : Option Char → Bool
  | none => false
  | some c => c.isAlphanum || c = '_' || c = '\x7b' || c = '(' || c = '@' || c = '*' || c = '#' || c = '?' || c = '-' ||
      c = '$' || c = '!'
/-- Outside of double quotes a quote after the dollar sign does as well. -/
def expandsPlain (next : Option Char) : Bool := expands next || next = some '\'' || next = some '"'
/-- What a backslash between double quotes quotes. -/
def escapable (c : Char) : Bool := c = '$' || c = '\x60' || c = '"' || c = '\\'
/-- The character goes before the first of the words. -/
def push (c : Char × Bool) : List Word → List Word
  | [] => [[c]]
  | w :: rest => (c :: w) :: rest

/-- The words of the line, where it is one simple command without an expansion: `none`
    where something is to be expanded, redirected or run beside it, where the rest is a
    comment, or where a quote is not closed. In a word, the first of the words is the
    rest of it. -/
def read : Mode → Bool → List Char → Option (List Word)
  | .plain,inWord,[] => some (if inWord then [[]] else [])
  | _,_,[] => none
  | .plain,inWord,c :: rest =>
    if blank c then if inWord then (read .plain false rest).map ([] :: ·) else read .plain false rest
    else if c = '#' ∧ inWord = false then none
    else if c = '\'' then read .single true rest
    else if c = '"' then read .double true rest
    else if c = '\\' then read .escape inWord rest
    else if operator c ∨ c = '\x60' ∨ (c = '$' ∧ expandsPlain rest.head?) then none
    else (read .plain true rest).map (push (c,true))
  | .single,_,c :: rest => if c = '\'' then read .plain true rest else (read .single true rest).map (push (c,false))
  | .double,_,c :: rest =>
    if c = '"' then read .plain true rest
    else if c = '\\' then read .escapeDouble true rest
    else if c = '\x60' ∨ (c = '$' ∧ expands rest.head?) then none
    else (read .double true rest).map (push (c,false))
  | .escape,inWord,c :: rest =>
    if c = '\n' then read .plain inWord rest else (read .plain true rest).map (push (c,false))
  | .escapeDouble,_,c :: rest =>
    if c = '\n' then read .double true rest
    else if escapable c then (read .double true rest).map (push (c,false))
    else (read .double true rest).map fun words => push ('\\',false) (push (c,false) words)

/-- What a shell finds around it. -/
structure Shell where
  /-- The login name, or with no name `HOME`, stands for a directory. -/
  home : List Char → Bool
  matches_ : Word → Bool

section
variable (sh : Shell)

/-- A tilde, without a quoted character up to the first slash, and a name that is known. -/
def tilde : Word → Bool
  | ('~',true) :: rest =>
    let name := rest.takeWhile fun c => c ≠ ('/',true)
    name.all Prod.snd && sh.home (Word.text name)
  | _ => false

def pattern (w : Word) : Bool := w.any fun c => c.2 && (c.1 = '*' || c.1 = '?' || c.1 = '[')
/-- The shell puts something else in the place of the word. -/
def expanded (w : Word) : Bool := tilde sh w || (pattern w && sh.matches_ w)
def reserved : List (List Char) :=
  ["!","\x7b","\x7d","case","do","done","elif","else","esac","fi","for","if","in","then","until","while"].map String.toList
def assignment (w : Word) : Bool :=
  let name := w.takeWhile fun c => c ≠ ('=',true)
  name.length < w.length && name.all (fun c => c.2 && (c.1.isAlphanum || c.1 = '_')) &&
    name.head?.any fun c => !c.1.isDigit
/-- The word is no command name: it starts a compound command, or assigns a variable. -/
def keyword (w : Word) : Bool := (w.all Prod.snd && decide (Word.text w ∈ reserved)) || assignment w

/-- The arguments of the one command that the shell runs, the command's name first, where
    it runs one without expanding anything. -/
def arguments (line : List Char) : Option (List (List Char)) :=
  if '\x00' ∈ line then none
  else
    match read .plain false line with
    | none => none
    | some words => if words.head?.any keyword || words.any (expanded sh) then none else some (words.map Word.text)

end

/-- Outside of quotes the character stands for itself, before the next one. -/
structure Solid (c : Char) (next : Option Char) : Prop where
  unblank : blank c = false
  unquote : c ≠ '\'' ∧ c ≠ '"' ∧ c ≠ '\\' ∧ c ≠ '\x60'
  joins : operator c = false
  stays : ¬(c = '$' ∧ expandsPlain next = true)
/-- Between double quotes it does. -/
structure Dull (c : Char) (next : Option Char) : Prop where
  unquote : c ≠ '"' ∧ c ≠ '\\' ∧ c ≠ '\x60'
  stays : ¬(c = '$' ∧ expands next = true)

/-- One rule for each way on. -/
inductive Reads : Mode → Bool → List Char → List Word → Prop
  | stop : Reads .plain false [] []
  | close : Reads .plain true [] [[]]
  | skip {c rest words} : blank c = true → Reads .plain false rest words → Reads .plain false (c :: rest) words
  | gap {c rest words} : blank c = true → Reads .plain false rest words → Reads .plain true (c :: rest) ([] :: words)
  | enterSingle {inWord rest words} : Reads .single true rest words → Reads .plain inWord ('\'' :: rest) words
  | enterDouble {inWord rest words} : Reads .double true rest words → Reads .plain inWord ('"' :: rest) words
  | enterEscape {inWord rest words} : Reads .escape inWord rest words → Reads .plain inWord ('\\' :: rest) words
  | solid {inWord c rest words} : Solid c rest.head? → ¬(c = '#' ∧ inWord = false) → Reads .plain true rest words →
      Reads .plain inWord (c :: rest) (push (c,true) words)
  | leaveSingle {inWord rest words} : Reads .plain true rest words → Reads .single inWord ('\'' :: rest) words
  | single {inWord c rest words} : c ≠ '\'' → Reads .single true rest words →
      Reads .single inWord (c :: rest) (push (c,false) words)
  | leaveDouble {inWord rest words} : Reads .plain true rest words → Reads .double inWord ('"' :: rest) words
  | enterEscapeDouble {inWord rest words} : Reads .escapeDouble true rest words →
      Reads .double inWord ('\\' :: rest) words
  | dull {inWord c rest words} : Dull c rest.head? → Reads .double true rest words →
      Reads .double inWord (c :: rest) (push (c,false) words)
  | join {inWord rest words} : Reads .plain inWord rest words → Reads .escape inWord ('\n' :: rest) words
  | escaped {inWord c rest words} : c ≠ '\n' → Reads .plain true rest words →
      Reads .escape inWord (c :: rest) (push (c,false) words)
  | joinDouble {inWord rest words} : Reads .double true rest words → Reads .escapeDouble inWord ('\n' :: rest) words
  | escapedDouble {inWord c rest words} : c ≠ '\n' → escapable c = true → Reads .double true rest words →
      Reads .escapeDouble inWord (c :: rest) (push (c,false) words)
  | backslash {inWord c rest words} : c ≠ '\n' → escapable c = false → Reads .double true rest words →
      Reads .escapeDouble inWord (c :: rest) (push ('\\',false) (push (c,false) words))

section
variable {mode : Mode} {inWord : Bool} {line : List Char} {words : List Word}

theorem reads_of_read (done : read mode inWord line = some words) : Reads mode inWord line words := by
  induction line generalizing mode inWord words with
  | nil =>
    cases mode <;> simp only [read] at done
    case plain =>
      cases inWord <;> cases done
      · exact .stop
      · exact .close
    all_goals cases done
  | cons c rest ih =>
    cases mode with
    | plain =>
      simp only [read] at done
      split at done
      · rename_i gap
        cases inWord with
        | true =>
          obtain ⟨later,read',rfl⟩ := Option.map_eq_some_iff.mp done
          exact .gap gap (ih read')
        | false => exact .skip gap (ih done)
      · rename_i unblank
        split at done
        · cases done
        · rename_i uncomment
          split at done
          · rename_i same
            exact same ▸ .enterSingle (ih done)
          · split at done
            · rename_i same
              exact same ▸ .enterDouble (ih done)
            · split at done
              · rename_i same
                exact same ▸ .enterEscape (ih done)
              · split at done
                · cases done
                · rename_i single double escape others
                  rw [not_or,not_or] at others
                  obtain ⟨later,read',rfl⟩ := Option.map_eq_some_iff.mp done
                  exact .solid ⟨Bool.eq_false_iff.mpr unblank,⟨single,double,escape,others.2.1⟩,
                    Bool.eq_false_iff.mpr others.1,others.2.2⟩ uncomment (ih read')
    | single =>
      simp only [read] at done
      split at done
      · rename_i same
        exact same ▸ .leaveSingle (ih done)
      · rename_i other
        obtain ⟨later,read',rfl⟩ := Option.map_eq_some_iff.mp done
        exact .single other (ih read')
    | double =>
      simp only [read] at done
      split at done
      · rename_i same
        exact same ▸ .leaveDouble (ih done)
      · split at done
        · rename_i same
          exact same ▸ .enterEscapeDouble (ih done)
        · split at done
          · cases done
          · rename_i double escape others
            rw [not_or] at others
            obtain ⟨later,read',rfl⟩ := Option.map_eq_some_iff.mp done
            exact .dull ⟨⟨double,escape,others.1⟩,others.2⟩ (ih read')
    | escape =>
      simp only [read] at done
      split at done
      · rename_i same
        exact same ▸ .join (ih done)
      · rename_i other
        obtain ⟨later,read',rfl⟩ := Option.map_eq_some_iff.mp done
        exact .escaped other (ih read')
    | escapeDouble =>
      simp only [read] at done
      split at done
      · rename_i same
        exact same ▸ .joinDouble (ih done)
      · rename_i other
        split at done
        · rename_i special
          obtain ⟨later,read',rfl⟩ := Option.map_eq_some_iff.mp done
          exact .escapedDouble other special (ih read')
        · rename_i plain
          obtain ⟨later,read',rfl⟩ := Option.map_eq_some_iff.mp done
          exact .backslash other (Bool.eq_false_iff.mpr plain) (ih read')

theorem read_of_reads (done : Reads mode inWord line words) : read mode inWord line = some words := by
  induction done with
  | stop => rfl
  | close => rfl
  | skip gap _ ih => simp [read,gap,ih]
  | gap gap _ ih => simp [read,gap,ih]
  | enterSingle _ ih => simpa [read,blank] using ih
  | enterDouble _ ih => simpa [read,blank] using ih
  | enterEscape _ ih => simpa [read,blank] using ih
  | solid solid uncomment _ ih =>
    simp only [read,solid.unblank,Bool.false_eq_true,if_false,if_neg uncomment,if_neg solid.unquote.1,
        if_neg solid.unquote.2.1,
      if_neg solid.unquote.2.2.1,solid.joins,false_or,solid.unquote.2.2.2,if_neg solid.stays,ih,Option.map_some]
  | leaveSingle _ ih => simpa [read] using ih
  | single other _ ih => simp [read,other,ih]
  | leaveDouble _ ih => simpa [read] using ih
  | enterEscapeDouble _ ih => simpa [read] using ih
  | dull dull _ ih =>
    simp only [read,if_neg dull.unquote.1,if_neg dull.unquote.2.1,dull.unquote.2.2,false_or,if_neg dull.stays,ih,
        Option.map_some]
  | join _ ih => simpa [read] using ih
  | escaped other _ ih => simp [read,other,ih]
  | joinDouble _ ih => simpa [read] using ih
  | escapedDouble other special _ ih => simp [read,other,special,ih]
  | backslash other plain _ ih => simp [read,other,plain,ih]

def letters (words : List Word) : List Char := (words.map Word.text).flatten
@[simp] theorem letters_push (c : Char × Bool) (words : List Word) : letters (push c words) = c.1 :: letters words := by
  cases words <;> rfl
@[simp] theorem letters_gap (words : List Word) : letters ([] :: words) = letters words := rfl
theorem length_push (c : Char × Bool) (began : words ≠ []) : (push c words).length = words.length := by
  cases words with
  | nil => exact absurd rfl began
  | cons w rest => rfl
theorem began_push (c : Char × Bool) (words : List Word) : push c words ≠ [] := by
  cases words <;> exact List.cons_ne_nil _ _
theorem Reads.began (done : Reads mode inWord line words) (inside : inWord = true) : words ≠ [] := by
  induction done with
  | stop => cases inside
  | close => exact List.cons_ne_nil _ _
  | skip => cases inside
  | gap => exact List.cons_ne_nil _ _
  | enterSingle _ ih | enterDouble _ ih | leaveSingle _ ih | leaveDouble _ ih | enterEscapeDouble _ ih
  | joinDouble _ ih => exact ih rfl
  | enterEscape _ ih | join _ ih => exact ih inside
  | solid | single | dull | escaped | escapedDouble | backslash => exact began_push _ _
theorem count_push (a c : Char) (active : Bool) (words : List Word) :
    (letters (push (c,active) words)).count a = (letters words).count a + if c = a then 1 else 0 := by
  simp [List.count_cons]
theorem count_line (a c : Char) (rest : List Char) : (c :: rest).count a = rest.count a + if c = a then 1 else 0 := by
  simp [List.count_cons]
theorem blank_ne {c : Char} (gap : blank c = true) : c ≠ '\'' ∧ c ≠ '"' ∧ c ≠ '\\' := by
  simp only [blank,Bool.or_eq_true,decide_eq_true_eq] at gap
  rcases gap with rfl | rfl <;> decide
theorem escapable_ne {c : Char} (plain : escapable c = false) : c ≠ '"' ∧ c ≠ '\\' := by
  simp only [escapable,Bool.or_eq_false_iff,decide_eq_false_iff_not] at plain
  exact ⟨plain.1.2,plain.2⟩

theorem Reads.quotes_le (done : Reads mode inWord line words) : (letters words).count '\'' ≤ line.count '\'' := by
  induction done with
  | stop => exact Nat.zero_le _
  | close => exact Nat.zero_le _
  | gap _ _ ih =>
    rw [letters_gap,count_line]
    omega
  | skip _ _ ih | enterSingle _ ih | enterDouble _ ih | enterEscape _ ih | leaveSingle _ ih | leaveDouble _ ih
  | enterEscapeDouble _ ih | join _ ih | joinDouble _ ih =>
    rw [count_line]
    omega
  | solid _ _ _ ih | single _ _ ih | dull _ _ ih | escaped _ _ ih | escapedDouble _ _ _ ih =>
    rw [count_push,count_line]
    omega
  | backslash _ _ _ ih =>
    rw [count_push,count_push,count_line,if_neg (by decide : '\\' ≠ '\'')]
    omega

/-- Without single quotes, a double quote or a backslash that comes out costs a backslash. -/
theorem Reads.spent_le (done : Reads mode inWord line words) (outside : mode ≠ .single)
    (kept : (letters words).count '\'' = line.count '\'') :
    (letters words).count '"' + (letters words).count '\\' ≤
      line.count '\\' + if mode = .escape ∨ mode = .escapeDouble then 1 else 0 := by
  induction done with
  | stop => exact Nat.zero_le _
  | close => exact Nat.zero_le _
  | skip gap _ ih =>
    obtain ⟨single,-,-⟩ := blank_ne gap
    rw [count_line,if_neg single] at kept
    have := ih (by decide) kept
    rw [count_line]
    simp at this ⊢
    omega
  | gap gap _ ih =>
    obtain ⟨single,-,-⟩ := blank_ne gap
    rw [letters_gap,count_line,if_neg single] at kept
    have := ih (by decide) kept
    rw [letters_gap,count_line]
    simp at this ⊢
    omega
  | enterSingle later _ =>
    have := later.quotes_le
    rw [count_line,if_pos rfl] at kept
    omega
  | enterDouble _ ih | enterEscape _ ih | leaveDouble _ ih | enterEscapeDouble _ ih | join _ ih | joinDouble _ ih =>
    rw [count_line,if_neg (by decide)] at kept
    have := ih (by decide) kept
    rw [count_line]
    simp at this ⊢
    omega
  | solid solid _ _ ih =>
    rw [count_push,count_line] at kept
    have := ih (by decide) (by omega)
    rw [count_push,count_push,count_line,if_neg solid.unquote.2.1,if_neg solid.unquote.2.2.1]
    simp at this ⊢
    omega
  | leaveSingle | single => exact absurd rfl outside
  | dull dull _ ih =>
    rw [count_push,count_line] at kept
    have := ih (by decide) (by omega)
    rw [count_push,count_push,count_line,if_neg dull.unquote.1,if_neg dull.unquote.2.1]
    simp at this ⊢
    omega
  | escaped _ _ ih | escapedDouble _ _ _ ih =>
    rw [count_push,count_line] at kept
    have := ih (by decide) (by omega)
    rw [count_push,count_push,count_line]
    simp at this ⊢
    split_ifs <;> omega
  | backslash _ plain _ ih =>
    obtain ⟨double,escape⟩ := escapable_ne plain
    rw [count_push,count_push,count_line,if_neg (by decide : '\\' ≠ '\'')] at kept
    have := ih (by decide) (by omega)
    rw [count_push,count_push,count_push,count_push,count_line,if_neg double,if_neg escape]
    simp at this ⊢
    omega

/-- Every character of the line comes out, or is a quote or a backslash that does not, or
    starts at most one word. -/
theorem Reads.size_le (done : Reads mode inWord line words) :
    words.length + (letters words).length + line.count '"' + line.count '\\' ≤
      line.length + 1 + (letters words).count '"' + (letters words).count '\\' := by
  induction done with
  | stop => exact Nat.zero_le _
  | close => exact Nat.le_refl _
  | skip gap _ ih =>
    obtain ⟨-,double,escape⟩ := blank_ne gap
    rw [count_line,count_line,if_neg double,if_neg escape,List.length_cons]
    omega
  | gap gap _ ih =>
    obtain ⟨-,double,escape⟩ := blank_ne gap
    rw [count_line,count_line,if_neg double,if_neg escape,letters_gap,List.length_cons,List.length_cons]
    omega
  | enterSingle _ ih | enterDouble _ ih | enterEscape _ ih | leaveSingle _ ih | leaveDouble _ ih | enterEscapeDouble _ ih
  | join _ ih | joinDouble _ ih =>
    rw [count_line,count_line,List.length_cons]
    simp
    omega
  | solid _ _ later ih | single _ later ih | dull _ later ih | escaped _ later ih | escapedDouble _ _ later ih =>
    rw [count_push,count_push,count_line,count_line,letters_push,length_push _ (later.began rfl),List.length_cons,
        List.length_cons]
    omega
  | backslash _ plain later ih =>
    obtain ⟨double,escape⟩ := escapable_ne plain
    rw [count_push,count_push,count_push,count_push,count_line,count_line,if_neg double,if_neg escape,
        letters_push,letters_push,
      length_push _ (began_push _ _),length_push _ (later.began rfl),List.length_cons,List.length_cons,List.length_cons]
    simp
    omega

/-- No single quote is lost, no backslash but before a double quote, and no blank but
    between two words. -/
structure Spared (mode : Mode) (inWord : Bool) (line : List Char) (words : List Word) : Prop where
  reads : Reads mode inWord line words
  quotes : (letters words).count '\'' = line.count '\''
  spent : (letters words).count '"' + (letters words).count '\\' = line.count '\\'
  size : words.length + (letters words).length + line.count '"' + line.count '\\' =
    line.length + 1 + (letters words).count '"' + (letters words).count '\\'
theorem Spared.ends (spared : Spared .plain inWord [] words) : inWord = true ∧ words = [[]] := by
  obtain ⟨reads,-,-,size⟩ := spared
  cases reads with
  | stop => cases size
  | close => exact ⟨rfl,rfl⟩

section
variable {c : Char} {rest : List Char}

theorem Spared.plain (spared : Spared .plain inWord (c :: rest) words) :
    (blank c = true ∧ inWord = true ∧ ∃ later, words = [] :: later ∧ Spared .plain false rest later) ∨
    (c = '"' ∧ Spared .double true rest words) ∨
    (c = '\\' ∧ ∃ tail later, rest = '"' :: tail ∧ words = push ('"',false) later ∧ Spared .plain true tail later) ∨
    (Solid c rest.head? ∧ ¬(c = '#' ∧ inWord = false) ∧ ∃ later, words = push (c,true) later ∧ Spared .plain true rest later) := by
  obtain ⟨reads,quotes,spent,size⟩ := spared
  cases reads with
  | skip gap reads =>
    obtain ⟨-,double,escape⟩ := blank_ne gap
    have least := reads.size_le
    rw [count_line,count_line,if_neg double,if_neg escape,List.length_cons] at size
    omega
  | gap gap reads =>
    obtain ⟨single,double,escape⟩ := blank_ne gap
    rw [count_line,if_neg single] at quotes
    rw [count_line,if_neg escape] at spent
    rw [count_line,count_line,if_neg double,if_neg escape,List.length_cons,List.length_cons] at size
    exact .inl ⟨gap,rfl,_,rfl,reads,quotes,spent,by simp only [letters_gap] at size; omega⟩
  | enterSingle reads =>
    have least := reads.quotes_le
    rw [count_line,if_pos rfl] at quotes
    omega
  | enterDouble reads =>
    rw [count_line,if_neg (by decide)] at quotes spent
    rw [count_line,count_line,if_pos rfl,if_neg (by decide),List.length_cons] at size
    exact .inr (.inl ⟨rfl,reads,quotes,spent,by omega⟩)
  | enterEscape reads =>
    rw [count_line,if_neg (by decide)] at quotes
    rw [count_line,if_pos rfl] at spent
    rw [count_line,count_line,if_neg (by decide),if_pos rfl,List.length_cons] at size
    cases reads with
    | join reads =>
      rw [count_line,if_neg (by decide)] at quotes spent
      have least := reads.spent_le (by decide) quotes
      simp at least
      omega
    | @escaped _ d tail later other reads =>
      rw [count_push,count_line] at quotes
      have least := reads.spent_le (by decide) (by omega)
      rw [count_push,count_push,count_line] at spent
      by_cases double : d = '"'
      · subst double
        rw [count_push,count_push,count_line,count_line,letters_push,length_push _ (reads.began rfl),List.length_cons,
          List.length_cons] at size
        rw [if_pos rfl,if_neg (by decide)] at spent
        exact .inr (.inr (.inl ⟨rfl,_,_,rfl,rfl,reads,by omega,by omega,by omega⟩))
      · rw [if_neg double] at spent
        simp at least
        split_ifs at spent <;> omega
  | solid solid uncomment reads =>
    rw [count_push,count_line] at quotes
    rw [count_push,count_push,count_line] at spent
    rw [count_push,count_push,count_line,count_line,letters_push,length_push _ (reads.began rfl),List.length_cons,
        List.length_cons] at size
    rw [if_neg solid.unquote.2.1,if_neg solid.unquote.2.2.1] at spent
    exact .inr (.inr (.inr ⟨solid,uncomment,_,rfl,reads,by omega,by omega,by omega⟩))

theorem Spared.double (spared : Spared .double inWord (c :: rest) words) :
    (c = '"' ∧ Spared .plain true rest words) ∨
    (c = '\\' ∧ ∃ tail later, rest = '"' :: tail ∧ words = push ('"',false) later ∧ Spared .double true tail later) ∨
    (c = '\\' ∧ (∃ d ∈ rest.head?, d ≠ '\n' ∧ escapable d = false) ∧
      ∃ later, words = push ('\\',false) later ∧ Spared .double true rest later) ∨
    (Dull c rest.head? ∧ ∃ later, words = push (c,false) later ∧ Spared .double true rest later) := by
  obtain ⟨reads,quotes,spent,size⟩ := spared
  cases reads with
  | leaveDouble reads =>
    rw [count_line,if_neg (by decide)] at quotes spent
    rw [count_line,count_line,if_pos rfl,if_neg (by decide),List.length_cons] at size
    exact .inl ⟨rfl,reads,quotes,spent,by omega⟩
  | enterEscapeDouble reads =>
    rw [count_line,if_neg (by decide)] at quotes
    rw [count_line,if_pos rfl] at spent
    rw [count_line,count_line,if_neg (by decide),if_pos rfl,List.length_cons] at size
    cases reads with
    | joinDouble reads =>
      rw [count_line,if_neg (by decide)] at quotes spent
      have least := reads.spent_le (by decide) quotes
      simp at least
      omega
    | @escapedDouble _ d tail later other special reads =>
      rw [count_push,count_line] at quotes
      have least := reads.spent_le (by decide) (by omega)
      rw [count_push,count_push,count_line] at spent
      by_cases double : d = '"'
      · subst double
        rw [count_push,count_push,count_line,count_line,letters_push,length_push _ (reads.began rfl),List.length_cons,
          List.length_cons] at size
        rw [if_pos rfl,if_neg (by decide)] at spent
        exact .inr (.inl ⟨rfl,_,_,rfl,rfl,reads,by omega,by omega,by omega⟩)
      · rw [if_neg double] at spent
        simp at least
        split_ifs at spent <;> omega
    | @backslash _ d tail later other plain reads =>
      -- The character after the backslash is read as it would be without it.
      have dull : Dull d tail.head? := by
        simp only [escapable,Bool.or_eq_false_iff,decide_eq_false_iff_not] at plain
        exact ⟨⟨plain.1.2,plain.2,plain.1.1.2⟩,fun dollar => plain.1.1.1 dollar.1⟩
      rw [count_push,if_neg (by decide : '\\' ≠ '\'')] at quotes
      rw [count_push '"' '\\',count_push '\\' '\\',if_pos rfl,if_neg (by decide)] at spent
      rw [count_push '"' '\\',count_push '\\' '\\',letters_push,length_push _ (began_push _ _),List.length_cons,if_pos rfl,
        if_neg (by decide)] at size
      exact .inr (.inr (.inl ⟨rfl,⟨d,rfl,other,plain⟩,_,rfl,.dull dull reads,by omega,by omega,by omega⟩))
  | dull dull reads =>
    rw [count_push,count_line] at quotes
    rw [count_push,count_push,count_line,if_neg dull.unquote.1,if_neg dull.unquote.2.1] at spent
    rw [count_push,count_push,count_line,count_line,letters_push,length_push _ (reads.began rfl),List.length_cons,
      List.length_cons] at size
    exact .inr (.inr (.inr ⟨dull,_,rfl,reads,by omega,by omega,by omega⟩))

end
end

inductive Piece where
  | bare (text : List Char)
  | quoted (text : List Char)
  /-- Between double quotes, with a backslash before each of its own. -/
  | escaped (text : List Char)
def escapeQuotes (text : List Char) : List Char := text.flatMap fun c => if c = '"' then ['\\','"'] else [c]

namespace Piece

def text : Piece → List Char
  | bare text => text
  | quoted text => text
  | escaped text => text
def render : Piece → List Char
  | bare text => text
  | quoted text => '"' :: (text ++ ['"'])
  | escaped text => '"' :: (escapeQuotes text ++ ['"'])
def word : Piece → Word
  | bare text => text.map fun c => (c,true)
  | quoted text => text.map fun c => (c,false)
  | escaped text => text.map fun c => (c,false)

end Piece

/-- The pieces, with a blank between two of them. -/
def line : List Piece → List Char
  | [] => []
  | [p] => p.render
  | p :: q :: rest => p.render ++ ' ' :: line (q :: rest)
def Solids : List Char → Prop
  | [] => True
  | c :: rest => Solid c rest.head? ∧ Solids rest
/-- Between double quotes nothing in the text does anything. -/
def Dulls : List Char → Prop
  | [] => True
  | c :: rest => c ≠ '\x60' ∧ ¬(c = '$' ∧ expands rest.head? = true) ∧
      (c = '\\' → ∃ d ∈ rest.head?, d ≠ '\n' ∧ escapable d = false) ∧ Dulls rest
/-- What a piece has to be for its text to be one word. -/
def Piece.Whole : Piece → Prop
  | bare text => text ≠ [] ∧ text.head? ≠ some '#' ∧ Solids text
  | quoted text => '"' ∉ text ∧ Dulls text
  | escaped text => Dulls text
/-- What comes after a piece: nothing, or a blank and the rest. -/
def After (reads : List Char → List Word → Prop) (tail : List Char) (words : List Word) : Prop :=
  tail = [] ∧ words = [] ∨ ∃ rest, tail = ' ' :: rest ∧ reads rest words

section
variable {inWord : Bool} {text tail : List Char} {words later : List Word} {texts : List (List Char)}

theorem tail_spared (apart : tail = [] ∨ ∃ rest, tail = ' ' :: rest) (spared : Spared .plain inWord tail words) :
    inWord = true ∧ ∃ later, words = [] :: later ∧ After (Spared .plain false) tail later := by
  rcases apart with rfl | ⟨rest,rfl⟩
  · obtain ⟨inside,rfl⟩ := spared.ends
    exact ⟨inside,[],rfl,.inl ⟨rfl,rfl⟩⟩
  · rcases spared.plain with ⟨-,inside,later,rfl,further⟩ | ⟨same,-⟩ | ⟨same,-⟩ | ⟨solid,-⟩
    · exact ⟨inside,later,rfl,.inr ⟨rest,rfl,further⟩⟩
    · cases same
    · cases same
    · cases solid.unblank
theorem text_push {c : Char × Bool} (began : later ≠ []) (same : (push c later).map Word.text = text :: texts) :
    ∃ rest, text = c.1 :: rest ∧ later.map Word.text = rest :: texts := by
  cases later with
  | nil => exact absurd rfl began
  | cons w rest =>
    obtain ⟨head,others⟩ := List.cons.inj same
    exact ⟨w.text,head.symm,congrArg (w.text :: ·) others⟩

theorem bare_spared (apart : tail = [] ∨ ∃ rest, tail = ' ' :: rest) (unquoted : '"' ∉ text)
    (spared : Spared .plain inWord (text ++ tail) words) (same : words.map Word.text = text :: texts) :
    Solids text ∧ (inWord = false → text ≠ [] ∧ text.head? ≠ some '#') ∧
      ∃ later, words = (Piece.bare text).word :: later ∧ After (Spared .plain false) tail later := by
  induction text generalizing inWord words with
  | nil =>
    obtain ⟨inside,later,rfl,after⟩ := tail_spared apart spared
    exact ⟨trivial,fun outside => absurd (inside.symm.trans outside) (by decide),later,rfl,after⟩
  | cons c text ih =>
    obtain ⟨double,unquoted⟩ := not_or.mp (List.mem_cons.not.mp unquoted)
    rcases spared.plain with ⟨-,-,later,rfl,-⟩ | ⟨rfl,-⟩ | ⟨-,next,later,starts,-⟩ | ⟨solid,uncomment,later,rfl,further⟩
    · cases same
    · exact absurd rfl double
    · cases text with
      | nil =>
        rcases apart with rfl | ⟨rest,rfl⟩
        · cases starts
        · cases starts
      | cons d text =>
        cases starts
        exact absurd List.mem_cons_self unquoted
    · obtain ⟨rest,first,others⟩ := text_push (further.reads.began rfl) same
      cases first
      obtain ⟨solids,-,later,rfl,after⟩ := ih unquoted further others
      refine ⟨⟨?_,solids⟩,fun outside => ⟨List.cons_ne_nil _ _,fun comment => uncomment ⟨Option.some.inj comment,outside⟩⟩,
        later,rfl,after⟩
      cases text with
      | nil => exact ⟨solid.unblank,solid.unquote,solid.joins,nofun⟩
      | cons d text => exact solid

theorem escapeQuotes_of_unquoted (unquoted : '"' ∉ text) : escapeQuotes text = text := by
  induction text with
  | nil => rfl
  | cons c text ih =>
    obtain ⟨double,unquoted⟩ := not_or.mp (List.mem_cons.not.mp unquoted)
    rw [escapeQuotes,List.flatMap_cons,if_neg (Ne.symm double)]
    exact congrArg (c :: ·) (ih unquoted)

theorem head_escapeQuotes (text tail : List Char) :
    (text = [] ∧ (escapeQuotes text ++ '"' :: tail).head? = some '"') ∨
    (text.head? = some '"' ∧ (escapeQuotes text ++ '"' :: tail).head? = some '\\') ∨
    (∃ d, d ≠ '"' ∧ text.head? = some d ∧ (escapeQuotes text ++ '"' :: tail).head? = some d) := by
  cases text with
  | nil => exact .inl ⟨rfl,rfl⟩
  | cons d text =>
    by_cases double : d = '"'
    · subst double
      exact .inr (.inl ⟨rfl,rfl⟩)
    · refine .inr (.inr ⟨d,double,rfl,?_⟩)
      rw [escapeQuotes,List.flatMap_cons,if_neg double]
      rfl

theorem escaped_spared (apart : tail = [] ∨ ∃ rest, tail = ' ' :: rest)
    (spared : Spared .double inWord (escapeQuotes text ++ '"' :: tail) words) (same : words.map Word.text = text :: texts) :
    Dulls text ∧ ∃ later, words = (Piece.escaped text).word :: later ∧ After (Spared .plain false) tail later := by
  induction text generalizing inWord words with
  | nil =>
    rcases spared.double with ⟨-,further⟩ | ⟨same,-⟩ | ⟨same,-⟩ | ⟨dull,-⟩
    · exact ⟨trivial,(tail_spared apart further).2⟩
    · cases same
    · cases same
    · exact absurd rfl dull.unquote.1
  | cons c text ih =>
    by_cases double : c = '"'
    · subst double
      rcases spared.double with ⟨same,-⟩ | ⟨-,_,later,starts,rfl,further⟩ | ⟨-,⟨d,next,-,plain⟩,-⟩ | ⟨dull,-⟩
      · cases same
      · cases starts
        obtain ⟨rest,first,others⟩ := text_push (further.reads.began rfl) same
        cases first
        obtain ⟨dulls,later,rfl,after⟩ := ih further others
        exact ⟨⟨by decide,fun dollar => absurd dollar.1 (by decide),fun escape => absurd escape (by decide),dulls⟩,
            later,rfl,after⟩
      · cases next
        cases plain
      · exact absurd rfl dull.unquote.2.1
    · have starts : escapeQuotes (c :: text) ++ '"' :: tail = c :: (escapeQuotes text ++ '"' :: tail) := by
        rw [escapeQuotes,List.flatMap_cons,if_neg double]
        rfl
      rw [starts] at spared
      rcases spared.double with ⟨same,-⟩ | ⟨rfl,_,later,-,rfl,further⟩ | ⟨rfl,⟨d,next,line,plain⟩,later,rfl,
          further⟩ | ⟨dull,later,rfl,further⟩
      · exact absurd same double
      · obtain ⟨rest,first,-⟩ := text_push (further.reads.began rfl) same
        cases first
      · obtain ⟨rest,first,others⟩ := text_push (further.reads.began rfl) same
        cases first
        obtain ⟨dulls,later,rfl,after⟩ := ih further others
        refine ⟨⟨by decide,fun dollar => absurd dollar.1 (by decide),fun _ => ⟨d,?_,line,plain⟩,dulls⟩,later,rfl,after⟩
        rcases head_escapeQuotes text tail with ⟨-,head⟩ | ⟨-,head⟩ | ⟨e,-,own,head⟩
        · cases head.symm.trans next
          cases plain
        · cases head.symm.trans next
          cases plain
        · exact own.trans (head.symm.trans next)
      · obtain ⟨rest,first,others⟩ := text_push (further.reads.began rfl) same
        cases first
        obtain ⟨dulls,later,rfl,after⟩ := ih further others
        refine ⟨⟨dull.unquote.2.2,fun dollar => dull.stays ⟨dollar.1,?_⟩,fun escape => absurd escape dull.unquote.2.1,dulls⟩,
          later,rfl,after⟩
        rcases head_escapeQuotes text tail with ⟨rfl,-⟩ | ⟨own,-⟩ | ⟨e,-,own,head⟩
        · cases dollar.2
        · rw [own] at dollar
          cases dollar.2
        · rw [head,← own]
          exact dollar.2

/-- Only a text that is escaped has double quotes of its own. -/
def Piece.Unquoted : Piece → Prop
  | .bare text => '"' ∉ text
  | .quoted text => '"' ∉ text
  | .escaped _ => True

theorem piece_spared {p : Piece} (apart : tail = [] ∨ ∃ rest, tail = ' ' :: rest) (unquoted : p.Unquoted)
    (spared : Spared .plain false (p.render ++ tail) words) (same : words.map Word.text = p.text :: texts) :
    p.Whole ∧ ∃ later, words = p.word :: later ∧ After (Spared .plain false) tail later := by
  have inside {text : List Char} (spared : Spared .plain false ('"' :: (escapeQuotes text ++ '"' :: tail)) words) :
      Spared .double true (escapeQuotes text ++ '"' :: tail) words := by
    rcases spared.plain with ⟨gap,-⟩ | ⟨-,further⟩ | ⟨same,-⟩ | ⟨solid,-⟩
    · cases gap
    · exact further
    · cases same
    · exact absurd rfl solid.unquote.2.1
  cases p with
  | bare text =>
    obtain ⟨solids,starts,later⟩ := bare_spared apart unquoted spared same
    exact ⟨⟨(starts rfl).1,(starts rfl).2,solids⟩,later⟩
  | quoted text =>
    simp only [Piece.render,List.cons_append,List.append_assoc,List.nil_append] at spared
    rw [← escapeQuotes_of_unquoted unquoted] at spared
    obtain ⟨dulls,later⟩ := escaped_spared apart (inside spared) same
    exact ⟨⟨unquoted,dulls⟩,later⟩
  | escaped text =>
    simp only [Piece.render,List.cons_append,List.append_assoc,List.nil_append] at spared
    exact escaped_spared apart (inside spared) same

theorem line_spared {pieces : List Piece} (some_ : pieces ≠ []) (unquoted : ∀ p ∈ pieces, p.Unquoted)
    (spared : Spared .plain false (line pieces) words) (same : words.map Word.text = pieces.map Piece.text) :
    (∀ p ∈ pieces, p.Whole) ∧ words = pieces.map Piece.word := by
  induction pieces generalizing words with
  | nil => exact absurd rfl some_
  | cons p rest ih =>
    have first := unquoted p List.mem_cons_self
    cases rest with
    | nil =>
      rw [line,← List.append_nil p.render] at spared
      obtain ⟨whole,later,rfl,⟨-,rfl⟩ | ⟨_,starts,-⟩⟩ := piece_spared (.inl rfl) first spared same
      · exact ⟨List.forall_mem_singleton.mpr whole,rfl⟩
      · cases starts
    | cons q rest =>
      obtain ⟨whole,later,rfl,⟨ends,-⟩ | ⟨_,starts,further⟩⟩ := piece_spared (.inr ⟨_,rfl⟩) first spared same
      · cases ends
      · cases starts
        obtain ⟨others,words'⟩ :=
            ih (List.cons_ne_nil _ _) (fun p listed => unquoted p (List.mem_cons_of_mem _ listed)) further
          (List.cons.inj same).2
        exact ⟨List.forall_mem_cons.mpr ⟨whole,others⟩,congrArg (p.word :: ·) words'⟩

theorem tail_reads (after : After (Reads .plain false) tail later) : Reads .plain true tail ([] :: later) := by
  rcases after with ⟨rfl,rfl⟩ | ⟨rest,rfl,further⟩
  · exact .close
  · exact .gap rfl further

theorem bare_reads (after : After (Reads .plain false) tail later) (solids : Solids text)
    (starts : inWord = false → text ≠ [] ∧ text.head? ≠ some '#') :
    Reads .plain inWord (text ++ tail) ((Piece.bare text).word :: later) := by
  induction text generalizing inWord with
  | nil =>
    cases inWord with
    | true => exact tail_reads after
    | false => exact absurd rfl (starts rfl).1
  | cons c text ih =>
    show Reads .plain inWord (c :: (text ++ tail)) (push (c,true) ((Piece.bare text).word :: later))
    refine .solid ?_ (fun comment => (starts comment.2).2 (congrArg some comment.1))
      (ih solids.2 nofun)
    cases text with
    | nil =>
      obtain ⟨⟨unblank,unquote,joins,-⟩,-⟩ := solids
      refine ⟨unblank,unquote,joins,fun dollar => ?_⟩
      rcases after with ⟨rfl,-⟩ | ⟨rest,rfl,-⟩
      · cases dollar.2
      · cases dollar.2
    | cons d text => exact solids.1

theorem backslash_reads {d : Char} {rest : List Char} (joins : d ≠ '\n') (plain : escapable d = false)
    (further : Reads .double true (d :: rest) words) :
    Reads .double inWord ('\\' :: d :: rest) (push ('\\',false) words) := by
  cases further with
  | leaveDouble => cases plain
  | enterEscapeDouble => cases plain
  | dull _ further => exact .enterEscapeDouble (.backslash joins plain further)

theorem escaped_reads (after : After (Reads .plain false) tail later) (dulls : Dulls text) :
    Reads .double inWord (escapeQuotes text ++ '"' :: tail) ((Piece.escaped text).word :: later) := by
  induction text generalizing inWord with
  | nil => exact .leaveDouble (tail_reads after)
  | cons c text ih =>
    obtain ⟨back,stays,escape,dulls⟩ := dulls
    have further : Reads .double true (escapeQuotes text ++ '"' :: tail) ((Piece.escaped text).word :: later) := ih dulls
    by_cases double : c = '"'
    · subst double
      exact .enterEscapeDouble (.escapedDouble (by decide) rfl further)
    · have starts : escapeQuotes (c :: text) ++ '"' :: tail = c :: (escapeQuotes text ++ '"' :: tail) := by
        rw [escapeQuotes,List.flatMap_cons,if_neg double]
        rfl
      rw [starts]
      by_cases backslash : c = '\\'
      · -- The next character is read after the backslash as it is by itself.
        subst backslash
        obtain ⟨d,next,joins,plain⟩ := escape rfl
        rcases head_escapeQuotes text tail with ⟨rfl,-⟩ | ⟨own,-⟩ | ⟨e,-,own,head⟩
        · cases next
        · cases own.symm.trans next
          cases plain
        · cases own.symm.trans next
          obtain ⟨rest,line⟩ : ∃ rest, escapeQuotes text ++ '"' :: tail = d :: rest := List.head?_eq_some_iff.mp head
          rw [line] at further ⊢
          exact backslash_reads joins plain further
      · show Reads .double inWord _ (push (c,false) ((Piece.escaped text).word :: later))
        refine .dull ⟨⟨double,backslash,back⟩,fun dollar => stays ⟨dollar.1,?_⟩⟩ further
        rcases head_escapeQuotes text tail with ⟨-,head⟩ | ⟨-,head⟩ | ⟨e,-,own,head⟩
        · rw [head] at dollar
          cases dollar.2
        · rw [head] at dollar
          cases dollar.2
        · rw [own,← head]
          exact dollar.2

theorem piece_reads {p : Piece} (after : After (Reads .plain false) tail later) (whole : p.Whole) :
    Reads .plain false (p.render ++ tail) (p.word :: later) := by
  cases p with
  | bare text => exact bare_reads after whole.2.2 fun _ => ⟨whole.1,whole.2.1⟩
  | quoted text =>
    simp only [Piece.render,List.cons_append,List.append_assoc,List.nil_append]
    rw [← escapeQuotes_of_unquoted whole.1]
    refine .enterDouble ?_
    rw [show (Piece.quoted (escapeQuotes text)).word = (Piece.escaped text).word by rw [escapeQuotes_of_unquoted whole.1]; rfl]
    exact escaped_reads after whole.2
  | escaped text =>
    simp only [Piece.render,List.cons_append,List.append_assoc,List.nil_append]
    exact .enterDouble (escaped_reads after whole)

theorem line_reads {pieces : List Piece} (some_ : pieces ≠ []) (whole : ∀ p ∈ pieces, p.Whole) :
    Reads .plain false (line pieces) (pieces.map Piece.word) := by
  induction pieces with
  | nil => exact absurd rfl some_
  | cons p rest ih =>
    have first := whole p List.mem_cons_self
    cases rest with
    | nil =>
      rw [line,← List.append_nil p.render]
      exact piece_reads (.inl ⟨rfl,rfl⟩) first
    | cons q rest =>
      have others := ih (List.cons_ne_nil _ _) fun p listed => whole p (List.mem_cons_of_mem _ listed)
      exact piece_reads (.inr ⟨_,rfl,others⟩) first

/-- The backslashes that escape the text's quotes. -/
def Piece.doubled : Piece → Nat
  | .escaped text => text.count '"'
  | _ => 0
def Piece.framed : Piece → Nat
  | .bare _ => 0
  | _ => 2
/-- The quotes in it that nothing escapes. -/
def Piece.stray : Piece → Nat
  | .escaped _ => 0
  | .bare text => text.count '"'
  | .quoted text => text.count '"'

theorem escapeQuotes_counts (text : List Char) : (escapeQuotes text).count '\'' = text.count '\'' ∧
    (escapeQuotes text).count '\\' = text.count '\\' + text.count '"' ∧
    (escapeQuotes text).count '"' = text.count '"' ∧ (escapeQuotes text).length = text.length + text.count '"' := by
  induction text with
  | nil => exact ⟨rfl,rfl,rfl,rfl⟩
  | cons c text ih =>
    obtain ⟨single,escape,double,size⟩ := ih
    rw [escapeQuotes,List.flatMap_cons]
    change (_ ++ escapeQuotes text).count _ = _ ∧ (_ ++ escapeQuotes text).count _ = _ ∧
        (_ ++ escapeQuotes text).count _ = _ ∧
      (_ ++ escapeQuotes text).length = _
    by_cases same : c = '"'
    · subst same
      simp [single,escape,double,size]
      omega
    · simp only [if_neg same,List.singleton_append,count_line,single,escape,double,size,List.length_cons]
      refine ⟨trivial,?_,trivial,?_⟩ <;> omega

theorem render_counts (p : Piece) : p.render.count '\'' = p.text.count '\'' ∧
    p.render.count '\\' = p.text.count '\\' + p.doubled ∧ p.render.count '"' = p.text.count '"' + p.framed ∧
    p.render.length = p.text.length + p.framed + p.doubled ∧ p.text.count '"' = p.stray + p.doubled := by
  cases p with
  | bare text => exact ⟨rfl,rfl,rfl,rfl,rfl⟩
  | quoted text => simp [Piece.render,Piece.text,Piece.doubled,Piece.framed,Piece.stray]
  | escaped text =>
    obtain ⟨single,escape,double,size⟩ := escapeQuotes_counts text
    simp [Piece.render,Piece.text,Piece.doubled,Piece.framed,Piece.stray,single,escape,double,size]
    omega

def content (pieces : List Piece) : List Char := (pieces.map Piece.text).flatten

theorem line_counts {pieces : List Piece} (some_ : pieces ≠ []) :
    (line pieces).count '\'' = (content pieces).count '\'' ∧
    (line pieces).count '\\' = (content pieces).count '\\' + (pieces.map Piece.doubled).sum ∧
    (line pieces).count '"' = (content pieces).count '"' + (pieces.map Piece.framed).sum ∧
    (line pieces).length + 1 = (content pieces).length + (pieces.map Piece.framed).sum +
        (pieces.map Piece.doubled).sum + pieces.length ∧
    (content pieces).count '"' = (pieces.map Piece.stray).sum + (pieces.map Piece.doubled).sum := by
  induction pieces with
  | nil => exact absurd rfl some_
  | cons p rest ih =>
    obtain ⟨single,escape,double,size,own⟩ := render_counts p
    cases rest with
    | nil =>
      simp only [line,content,List.map_cons,List.map_nil,List.flatten_cons,List.flatten_nil,List.append_nil,
          List.sum_cons,List.sum_nil]
      simp only [List.length_cons,List.length_nil]
      omega
    | cons q rest =>
      obtain ⟨single',escape',double',size',own'⟩ := ih (List.cons_ne_nil _ _)
      have more : content (p :: q :: rest) = p.text ++ content (q :: rest) := rfl
      have sums (f : Piece → Nat) : ((p :: q :: rest).map f).sum = f p + ((q :: rest).map f).sum := List.sum_cons
      rw [more,line,sums,sums,sums]
      simp only [List.count_append,count_line,List.length_append,List.length_cons,Char.reduceEq,if_false] at size' ⊢
      omega

end

def Piece.Fits (sh : Shell) (p : Piece) : Prop :=
  '\x00' ∉ p.text ∧ p.Whole ∧ expanded sh p.word = false

variable {sh : Shell} {pieces : List Piece}
theorem word_text (p : Piece) : p.word.text = p.text := by
  cases p <;> simp [Piece.word,Piece.text,Word.text,Function.comp_def]
theorem words_text (pieces : List Piece) : (pieces.map Piece.word).map Word.text = pieces.map Piece.text := by
  rw [List.map_map]
  exact List.map_congr_left fun p _ => word_text p

theorem mem_line {c : Char} (apart : c ≠ ' ' ∧ c ≠ '"' ∧ c ≠ '\\') : c ∈ line pieces ↔ ∃ p ∈ pieces, c ∈ p.text := by
  have own (p : Piece) : c ∈ p.render ↔ c ∈ p.text := by
    have escaped (text : List Char) : c ∈ escapeQuotes text ↔ c ∈ text := by
      induction text with
      | nil => rfl
      | cons d text ih =>
        rw [escapeQuotes,List.flatMap_cons,List.mem_append,List.mem_cons]
        refine or_congr ?_ ih
        by_cases double : d = '"'
        · simp [double,apart.2.1,apart.2.2]
        · simp [double]
    cases p <;> simp [Piece.render,Piece.text,escaped,apart.2.1]
  induction pieces with
  | nil => simp [line]
  | cons p rest ih =>
    cases rest with
    | nil => simp [line,own]
    | cons q rest =>
      have joined : c ∈ line (p :: q :: rest) ↔ c ∈ p.text ∨ c ∈ line (q :: rest) := by
        rw [line,List.mem_append,List.mem_cons,own]
        simp [apart.1]
      exact joined.trans ((or_congr_right ih).trans (by simp))

theorem spared_of_reads {words : List Word} (some_ : pieces ≠ []) (reads : Reads .plain false (line pieces) words)
    (same : words.map Word.text = pieces.map Piece.text) :
    Spared .plain false (line pieces) words ∧ ∀ p ∈ pieces, p.Unquoted := by
  obtain ⟨single,escape,double,size,own⟩ := line_counts some_
  have letters_ : letters words = content pieces := congrArg List.flatten same
  have number : words.length = pieces.length := by simpa using congrArg List.length same
  have quotes : (letters words).count '\'' = (line pieces).count '\'' := by rw [letters_,single]
  have spent := reads.spent_le (by decide) quotes
  rw [letters_] at spent
  simp at spent
  refine ⟨⟨reads,quotes,?_,?_⟩,fun p listed => ?_⟩
  · rw [letters_]
    omega
  · rw [letters_]
    omega
  · have none_ : (pieces.map Piece.stray).sum = 0 := by omega
    have bare := List.sum_eq_zero_iff_forall_eq_nat.mp none_ _ (List.mem_map_of_mem listed)
    cases p with
    | bare text => exact List.count_eq_zero.mp bare
    | quoted text => exact List.count_eq_zero.mp bare
    | escaped text => trivial

theorem expanded_inert (text : List Char) : expanded sh (text.map fun c => (c,false)) = false := by
  have plain : tilde sh (text.map fun c => (c,false)) = false := by
    cases text with
    | nil => rfl
    | cons c rest =>
      rw [List.map_cons,tilde]
      rintro _ same
      cases same
  rw [expanded,plain,pattern]
  simp
theorem keyword_path {text : List Char} (path : text.head? = some '/') : keyword (Piece.bare text).word = false := by
  cases text with
  | nil => cases path
  | cons c rest =>
    cases path
    have name : Word.text (Piece.bare ('/' :: rest)).word = '/' :: rest := word_text (.bare _)
    rw [keyword,name,assignment]
    simp [reserved,Piece.word]

/-- The shell runs one command with the pieces as its words exactly when each piece fits,
    and the first is a command's name. -/
theorem reads_iff (some_ : pieces ≠ []) :
    arguments sh (line pieces) = some (pieces.map Piece.text) ↔
      (∀ p ∈ pieces, p.Fits sh) ∧ (pieces.head?.any fun p => keyword p.word) = false := by
  have zero := @mem_line pieces '\x00' (by decide)
  have first : (pieces.map Piece.word).head?.any keyword = pieces.head?.any fun p => keyword p.word := by
    cases pieces <;> rfl
  constructor
  · intro came
    rw [arguments] at came
    split at came
    · cases came
    · rename_i unbroken
      split at came
      · cases came
      · rename_i words read
        split at came
        · cases came
        · rename_i plain
          rw [Bool.or_eq_true,not_or,Bool.not_eq_true,Bool.not_eq_true] at plain
          obtain ⟨spared,unquoted⟩ := spared_of_reads some_ (reads_of_read read) (Option.some.inj came)
          obtain ⟨whole,rfl⟩ := line_spared some_ unquoted spared (Option.some.inj came)
          refine ⟨fun p listed => ⟨fun broken => unbroken (zero.mpr ⟨p,listed,broken⟩),whole p listed,?_⟩,
              first ▸ plain.1⟩
          exact Bool.eq_false_iff.mpr fun expands =>
              Bool.eq_false_iff.mp plain.2 (List.any_eq_true.mpr ⟨_,List.mem_map_of_mem listed,expands⟩)
  · rintro ⟨fits,named⟩
    have read := read_of_reads (line_reads some_ fun p listed => (fits p listed).2.1)
    have unbroken : '\x00' ∉ line pieces := fun broken => by
      obtain ⟨p,listed,inside⟩ := zero.mp broken
      exact (fits p listed).1 inside
    have unexpanded : (pieces.map Piece.word).any (expanded sh) = false := by
      refine Bool.eq_false_iff.mpr fun expands => ?_
      obtain ⟨w,listed,expands⟩ := List.any_eq_true.mp expands
      obtain ⟨p,inside,rfl⟩ := List.mem_map.mp listed
      exact absurd ((fits p inside).2.2.symm.trans expands) (by decide)
    rw [arguments,if_neg unbroken,read]
    simp only [first,named,unexpanded,Bool.or_self,Bool.false_eq_true,if_false,words_text]

end Ngotag.ShellWords
