import Ngotag.NetworkAddresses

/-!
The test for private addresses, which reads their texts. It finds every IPv4 address in the ranges
that it names (`isPrivateIp_v4`). Of the IPv6 ranges it misses the link-local addresses that do
not begin with `fe80`, and only these (`isPrivateIp_v6`).
-/
namespace Ngotag.PrivateAddresses
open NetworkAddresses

/-- `0.0.0.0/8`, `100.64.0.0/10`, `127.0.0.0/8`, `10.0.0.0/8`, `172.16.0.0/12`, `192.168.0.0/16` and
    `169.254.0.0/16`. -/
def V4.Named (x : V4) : Prop :=
  x.a = 0 ∨ x.a = 100 ∧ 64 ≤ x.b ∧ x.b ≤ 127 ∨ x.a = 127 ∨ x.a = 10 ∨ x.a = 172 ∧ 16 ≤ x.b ∧ x.b ≤ 31 ∨
    x.a = 192 ∧ x.b = 168 ∨ x.a = 169 ∧ x.b = 254
/-- `::1`, `::`, `fe80::/10`, `fc00::/7`, and the IPv4 ranges as mapped addresses. -/
def V6.Named (words : List Word) : Prop :=
  words = [0,0,0,0,0,0,0,1] ∨ words = [0,0,0,0,0,0,0,0] ∨
    (∃ first rest, words = first :: rest ∧ (0xfe80 ≤ first ∧ first ≤ 0xfebf ∨ 0xfc00 ≤ first ∧ first ≤ 0xfdff)) ∨
    ∃ high low, words = [0,0,0,0,0,0xffff,high,low] ∧ V4.Named (embedded high low)
def Named : Address → Prop
  | .v4 address => V4.Named address
  | .v6 address => V6.Named address.words
/-- `\d{1,3}` at the start, where no digit follows. -/
def octet (text : List Char) : Bool :=
  let digits := text.takeWhile Char.isDigit
  1 ≤ digits.length && digits.length ≤ 3

/-- `\d{1,3}`, and as many more of these, each after a dot. -/
def octets : Nat → List Char → Bool
  | 0,text => octet text && text.dropWhile Char.isDigit = []
  | more + 1,text => octet text &&
    match text.dropWhile Char.isDigit with
    | '.' :: rest => octets more rest
    | _ => false
/-- `/^::ffff:(\d{1,3}\.\d{1,3}\.\d{1,3}\.\d{1,3})$/i` -/
def ipv4Mapped (ip : List Char) : Option (List Char) :=
  if matchesPrefix (lit "::" ++ litI "ffff" ++ [is ':']) ip && octets 3 (ip.drop 7) then some (ip.drop 7) else none

def ipv4Checks (ip : List Char) : Bool :=
  starts [lit "0" ++ [is '.']] ip ||
  starts [lit "100" ++ is '.' :: (lit "6" ++ [range '4' '9'] ++ [is '.']),
    lit "100" ++ is '.' :: ([range '7' '9'] ++ [range '0' '9'] ++ [is '.']),
    lit "100" ++ is '.' :: (lit "1" ++ [range '0' '1'] ++ [range '0' '9'] ++ [is '.']),
    lit "100" ++ is '.' :: (lit "12" ++ [range '0' '7'] ++ [is '.'])] ip ||
  starts [lit "127" ++ [is '.']] ip ||
  starts [lit "10" ++ [is '.']] ip ||
  starts [lit "172" ++ is '.' :: (lit "1" ++ [range '6' '9'] ++ [is '.']),
    lit "172" ++ is '.' :: (lit "2" ++ [range '0' '9'] ++ [is '.']),
    lit "172" ++ is '.' :: (lit "3" ++ [range '0' '1'] ++ [is '.'])] ip ||
  starts [lit "192" ++ is '.' :: (lit "168" ++ [is '.'])] ip ||
  starts [lit "169" ++ is '.' :: (lit "254" ++ [is '.'])] ip

def hexadecimal : Char → Bool := fun c => range '0' '9' c || range 'a' 'f' c.toLower
def localSecond : Char → Bool := fun c => c.toLower = 'c' || c.toLower = 'd'
def ipv6Checks (ip : List Char) : Bool :=
  ip = "::1".toList || ip = "0:0:0:0:0:0:0:1".toList ||
  ip = "::".toList || ip = "0:0:0:0:0:0:0:0".toList ||
  starts [litI "fe80" ++ [is ':']] ip ||
  starts [litI "f" ++ [localSecond] ++ [hexadecimal,hexadecimal] ++ [is ':']] ip
/-- What is mapped is tested in its turn; it begins with a digit, and is not mapped itself. -/
def isPrivateIp (ip : List Char) : Bool :=
  let ip := (ipv4Mapped ip).getD ip
  ipv4Checks ip || ipv6Checks ip
example : (isPrivateIp "::FFFF:10.0.0.1".toList,isPrivateIp "fe90::1".toList,isPrivateIp "172.32.0.1".toList) =
    (true,false,false) := by decide +kernel

section
variable {ip : List Char}

theorem starts_needs {separator : Char} {alternatives : List (List (Char → Bool))} (absent : separator ∉ ip)
    (asked : ∀ p ∈ alternatives, is separator ∈ p) : starts alternatives ip = false := by
  rw [starts,List.any_eq_false]
  exact fun p listed matched => absent (matchesPrefix_needs (asked p listed) matched)
theorem ipv6Checks_colon (absent : ':' ∉ ip) : ipv6Checks ip = false := by
  have no : ∀ text : List Char, ':' ∈ text → ip ≠ text := by
    rintro text there rfl
    exact absent there
  simp only [ipv6Checks,no _ (by decide : ':' ∈ "::1".toList),no _ (by decide : ':' ∈ "0:0:0:0:0:0:0:1".toList),
    no _ (by decide : ':' ∈ "::".toList),no _ (by decide : ':' ∈ "0:0:0:0:0:0:0:0".toList),decide_false,Bool.false_or,
    Bool.or_eq_false_iff]
  exact ⟨starts_needs absent (by simp),starts_needs absent (by simp)⟩
theorem ipv4Mapped_colon (absent : ':' ∉ ip) : ipv4Mapped ip = none := by
  rw [ipv4Mapped,if_neg]
  intro both
  exact absent (matchesPrefix_needs (by simp) (Bool.and_eq_true_iff.mp both).1)
theorem ipv4Checks_dot (absent : '.' ∉ ip) : ipv4Checks ip = false := by
  simp only [ipv4Checks,Bool.or_eq_false_iff]
  refine ⟨⟨⟨⟨⟨⟨?_,?_⟩,?_⟩,?_⟩,?_⟩,?_⟩,?_⟩ <;> exact starts_needs absent (by simp)
theorem octets_dot {more : Nat} (matched : octets (more + 1) ip = true) : '.' ∈ ip := by
  simp only [octets,Bool.and_eq_true] at matched
  have rest := matched.2
  split at rest
  · next split_ => exact List.dropWhile_subset _ (split_ ▸ List.mem_cons_self)
  · cases rest
theorem decimal_digits : ∀ byte : Byte, (decimal byte).all Char.isDigit = true ∧ 1 ≤ (decimal byte).length ∧
    (decimal byte).length ≤ 3 := by decide +kernel
theorem decimal_head : ∀ byte : Byte, (decimal byte).head?.any (fun c => c.toLower ≠ 'f') = true := by decide +kernel
theorem decimal_plain {byte : Byte} {c : Char} (other : c.isDigit = false) : c ∉ decimal byte := by
  intro there
  rw [List.all_eq_true.mp (decimal_digits byte).1 c there] at other
  cases other
theorem text_colon (x : V4) : ':' ∉ x.text := by
  simp [V4.text,decimal_plain (c := ':') rfl]

theorem octets_byte {byte : Byte} {more : Nat} {rest : List Char} :
    octets (more + 1) (decimal byte ++ '.' :: rest) = octets more rest := by
  obtain ⟨digits,least,most⟩ := decimal_digits byte
  have each := List.all_eq_true.mp digits
  have taken : (decimal byte ++ '.' :: rest).takeWhile Char.isDigit = decimal byte := by
    rw [List.takeWhile_append_of_pos each]
    exact List.append_nil _
  have dropped : (decimal byte ++ '.' :: rest).dropWhile Char.isDigit = '.' :: rest := by
    rw [List.dropWhile_append_of_pos each]
    rfl
  simp [octets,octet,taken,dropped,least,most]

theorem octets_text (x : V4) : octets 3 x.text = true := by
  obtain ⟨digits,least,most⟩ := decimal_digits x.d
  have each := List.all_eq_true.mp digits
  have taken : (decimal x.d).takeWhile Char.isDigit = decimal x.d := List.takeWhile_eq_self_iff.mpr each
  have dropped : (decimal x.d).dropWhile Char.isDigit = [] := List.dropWhile_eq_nil_iff.mpr each
  rw [V4.text,octets_byte,octets_byte,octets_byte]
  simp [octets,octet,taken,dropped,least,most]
theorem matches_byte {byte : Byte} {p q : List (Char → Bool)} {rest : List Char}
    (without : ∀ test ∈ p, test '.' = false) :
    matchesPrefix (p ++ is '.' :: q) (decimal byte ++ '.' :: rest) =
        (matchesAll p (decimal byte) && matchesPrefix q rest) :=
  matchesPrefix_part (decimal_plain rfl) without
theorem first_byte : ∀ byte : Byte,
    matchesAll (lit "0") (decimal byte) = decide (byte = 0) ∧ matchesAll (lit "100") (decimal byte) = decide
    (byte = 100) ∧
    matchesAll (lit "127") (decimal byte) = decide (byte = 127) ∧ matchesAll (lit "10")
        (decimal byte) = decide (byte = 10) ∧
    matchesAll (lit "172") (decimal byte) = decide (byte = 172) ∧ matchesAll (lit "192") (decimal byte) = decide
        (byte = 192) ∧
    matchesAll (lit "169") (decimal byte) = decide (byte = 169) := by decide +kernel
theorem second_byte : ∀ byte : Byte,
    (matchesAll (lit "6" ++ [range '4' '9']) (decimal byte) || (matchesAll ([range '7' '9'] ++ [range '0' '9']) (decimal byte) ||
      (matchesAll (lit "1" ++ [range '0' '1'] ++ [range '0' '9']) (decimal byte) ||
        matchesAll (lit "12" ++ [range '0' '7']) (decimal byte)))) = decide (64 ≤ byte ∧ byte ≤ 127) ∧
    (matchesAll (lit "1" ++ [range '6' '9']) (decimal byte) || (matchesAll (lit "2" ++ [range '0' '9']) (decimal byte) ||
      matchesAll (lit "3" ++ [range '0' '1']) (decimal byte))) = decide (16 ≤ byte ∧ byte ≤ 31) ∧
    matchesAll (lit "168") (decimal byte) = decide (byte = 168) ∧
    matchesAll (lit "254") (decimal byte) = decide (byte = 254) := by decide +kernel

theorem ipv4Checks_v4 (x : V4) : ipv4Checks x.text = true ↔ V4.Named x := by
  obtain ⟨zero,shared,loopback,ten,b172,b192,b169⟩ := first_byte x.a
  obtain ⟨shared',b172',b192',b169'⟩ := second_byte x.b
  have one (p : List (Char → Bool)) (without : ∀ test ∈ p, test '.' = false) :
      matchesPrefix (p ++ [is '.']) x.text = matchesAll p (decimal x.a) :=
    (matches_byte without).trans (Bool.and_true _)
  have two (p q : List (Char → Bool)) (without : ∀ test ∈ p, test '.' = false)
      (without' : ∀ test ∈ q, test '.' = false) :
      matchesPrefix (p ++ is '.' :: (q ++ [is '.'])) x.text =
      (matchesAll p (decimal x.a) && matchesAll q (decimal x.b)) :=
    (matches_byte without).trans (congrArg _ ((matches_byte without').trans (Bool.and_true _)))
  simp only [ipv4Checks,starts,List.any_cons,List.any_nil,Bool.or_false]
  rw [one (lit "0") (by decide),one (lit "127") (by decide),one (lit "10") (by decide),
    two (lit "100") (lit "6" ++ [range '4' '9']) (by decide) (by decide),
    two (lit "100") ([range '7' '9'] ++ [range '0' '9']) (by decide) (by decide),
    two (lit "100") (lit "1" ++ [range '0' '1'] ++ [range '0' '9']) (by decide) (by decide),
    two (lit "100") (lit "12" ++ [range '0' '7']) (by decide) (by decide),
    two (lit "172") (lit "1" ++ [range '6' '9']) (by decide) (by decide),
    two (lit "172") (lit "2" ++ [range '0' '9']) (by decide) (by decide),
    two (lit "172") (lit "3" ++ [range '0' '1']) (by decide) (by decide),
    two (lit "192") (lit "168") (by decide) (by decide),two (lit "169") (lit "254") (by decide) (by decide),
    zero,shared,loopback,ten,b172,b192,b169,b192',b169',← Bool.and_or_distrib_left,← Bool.and_or_distrib_left,
    ← Bool.and_or_distrib_left,← Bool.and_or_distrib_left,← Bool.and_or_distrib_left,shared',b172']
  simp only [Bool.or_eq_true,Bool.and_eq_true,decide_eq_true_eq,V4.Named,or_assoc]

theorem isPrivateIp_v4 (x : V4) : isPrivateIp x.text = true ↔ V4.Named x := by
  have unmapped : ipv4Mapped x.text = none := ipv4Mapped_colon (text_colon x)
  have none_ : ipv6Checks x.text = false := ipv6Checks_colon (text_colon x)
  simp only [isPrivateIp,unmapped,Option.getD_none,none_,Bool.or_false,ipv4Checks_v4]
end
variable {word : Word}

theorem hex_zero : hex word = ['0'] ↔ word = 0 := by
  rcases hex_cases word with ⟨d,value,same⟩ | ⟨c,d,value,big,same⟩ | ⟨b,c,d,value,big,same⟩ |
    ⟨a,b,c,d,value,big,same⟩ <;>
    simp only [same,List.cons.injEq,(hexDigit_facts _).2.2.1,Fin.ext_iff,value,reduceCtorEq,and_false,and_true,false_iff]
  · rfl
  all_goals exact fun zero => absurd zero (by simp only [Fin.val_zero]; omega)
theorem hex_one : hex word = ['1'] ↔ word = 1 := by
  rcases hex_cases word with ⟨d,value,same⟩ | ⟨c,d,value,big,same⟩ | ⟨b,c,d,value,big,same⟩ |
    ⟨a,b,c,d,value,big,same⟩ <;>
    simp only [same,List.cons.injEq,(hexDigit_facts _).2.2.2.1,Fin.ext_iff,value,reduceCtorEq,and_false,
        and_true,false_iff]
  · rfl
  all_goals exact fun one => absurd one (by simp only [Fin.val_one]; omega)
theorem hexadecimal_digit : ∀ d : Fin 16, hexadecimal (hexDigit d.val) = true := by decide

theorem first_fe80 : matchesAll (litI "fe80") (hex word) = true ↔ word = 0xfe80 := by
  have bits : word = 0xfe80 ↔ word.val = 65152 := Fin.ext_iff
  rw [bits]
  rcases hex_cases word with ⟨d,value,same⟩ | ⟨c,d,value,big,same⟩ | ⟨b,c,d,value,big,same⟩ |
    ⟨a,b,c,d,value,big,same⟩
  all_goals
    rw [same]
    simp [litI,matchesAll,value]
  · omega
  · omega
  · omega
  · obtain ⟨-,-,-,-,isF,-,-,-,-,-⟩ := hexDigit_facts a
    obtain ⟨-,-,-,-,-,isE,-,-,-,-⟩ := hexDigit_facts b
    obtain ⟨-,-,-,-,-,-,is8,-,-,-⟩ := hexDigit_facts c
    obtain ⟨-,-,-,-,-,-,-,is0,-,-⟩ := hexDigit_facts d
    rw [isF,isE,is8,is0]
    simp only [Fin.ext_iff]
    omega

theorem first_local : matchesAll (litI "f" ++ [localSecond] ++ [hexadecimal,hexadecimal]) (hex word) = true ↔
    0xfc00 ≤ word ∧ word ≤ 0xfdff := by
  have bits : (0xfc00 ≤ word ∧ word ≤ 0xfdff) ↔ 64512 ≤ word.val ∧ word.val ≤ 65023 := Iff.rfl
  rw [bits]
  rcases hex_cases word with ⟨d,value,same⟩ | ⟨c,d,value,big,same⟩ | ⟨b,c,d,value,big,same⟩ |
    ⟨a,b,c,d,value,big,same⟩
  all_goals
    rw [same]
    simp [litI,matchesAll,value,localSecond,hexadecimal_digit]
  · omega
  · omega
  · omega
  · obtain ⟨-,-,-,-,isF,-,-,-,-,-⟩ := hexDigit_facts a
    obtain ⟨-,-,-,-,-,-,-,-,isC,isD⟩ := hexDigit_facts b
    rw [isF,isC,isD]
    simp only [Fin.ext_iff]
    omega

theorem ipv6Checks_colons {rest : List Char} :
    ipv6Checks (':' :: ':' :: rest) = true ↔ rest = ['1'] ∨ rest = [] := by
  simp [ipv6Checks,starts,litI,matchesPrefix]

theorem ipv6Checks_word {first : Word} {more : List Char} :
    ipv6Checks (hex first ++ ':' :: more) = true ↔
      hex first ++ ':' :: more = "0:0:0:0:0:0:0:1".toList ∨ hex first ++ ':' :: more = "0:0:0:0:0:0:0:0".toList ∨
        first = 0xfe80 ∨ 0xfc00 ≤ first ∧ first ≤ 0xfdff := by
  have colons : ∀ rest, hex first ++ ':' :: more ≠ ':' :: rest := by
    intro rest same
    obtain ⟨empty,-⟩ := part_eq hex_colon (List.not_mem_nil : ':' ∉ []) same
    exact hex_ne_nil empty
  have fe80 : starts [litI "fe80" ++ [is ':']] (hex first ++ ':' :: more) = matchesAll (litI "fe80") (hex first) := by
    have part : matchesPrefix (litI "fe80" ++ [is ':']) (hex first ++ ':' :: more) =
        (matchesAll (litI "fe80") (hex first) && matchesPrefix [] more) := matchesPrefix_part hex_colon (by decide)
    simpa [starts,matchesPrefix] using part
  have ula : starts [litI "f" ++ [localSecond] ++ [hexadecimal,hexadecimal] ++ [is ':']] (hex first ++ ':' :: more) =
      matchesAll (litI "f" ++ [localSecond] ++ [hexadecimal,hexadecimal]) (hex first) := by
    have part : matchesPrefix (litI "f" ++ [localSecond] ++ [hexadecimal,hexadecimal] ++ [is ':'])
        (hex first ++ ':' :: more) =
        (matchesAll (litI "f" ++ [localSecond] ++ [hexadecimal,hexadecimal]) (hex first) && matchesPrefix [] more) :=
      matchesPrefix_part hex_colon (by decide)
    simpa only [starts,List.any_cons,List.any_nil,Bool.or_false,matchesPrefix,Bool.and_true] using part
  simp only [ipv6Checks,fe80,ula,Bool.or_eq_true,decide_eq_true_eq,first_fe80,first_local]
  have one := colons (":1".toList)
  have two := colons (":".toList)
  simp only [show "::1".toList = ':' :: ":1".toList from rfl,show "::".toList = ':' :: ":".toList from rfl,
      one,two,false_or,
    or_assoc,or_false]

theorem isPrivateIp_undotted {ip : List Char} (absent : '.' ∉ ip) : isPrivateIp ip = ipv6Checks ip := by
  have unmapped : ipv4Mapped ip = none := by
    rw [ipv4Mapped,if_neg]
    intro both
    exact absent (List.mem_of_mem_drop (octets_dot (Bool.and_eq_true_iff.mp both).2))
  simp only [isPrivateIp,unmapped,Option.getD_none,ipv4Checks_dot absent,Bool.false_or]
def V6.BeyondFe80 (words : List Word) : Prop := ∃ first rest, words = first :: rest ∧ 0xfe81 ≤ first ∧ first ≤ 0xfebf

variable {rest : List Word}
theorem first_zero (named : V6.Named (0 :: rest)) :
    rest = [0,0,0,0,0,0,1] ∨ rest = [0,0,0,0,0,0,0] ∨
      ∃ high low, rest = [0,0,0,0,0xffff,high,low] ∧ V4.Named (embedded high low) := by
  rcases named with one | zero | ⟨first,rest,is,range⟩ | ⟨high,low,is,named⟩
  · exact .inl (List.cons.inj one).2
  · exact .inr (.inl (List.cons.inj zero).2)
  · obtain ⟨rfl,-⟩ := List.cons.inj is
    exact absurd range (by decide)
  · exact .inr (.inr ⟨high,low,(List.cons.inj is).2,named⟩)
theorem not_beyond : ¬V6.BeyondFe80 (0 :: rest) := by
  rintro ⟨first,rest,is,low,-⟩
  obtain ⟨rfl,-⟩ := List.cons.inj is
  exact absurd low (by decide)

theorem isPrivateIp_compatible {high low : Word} (nonzero : high ≠ 0) :
    isPrivateIp (':' :: ':' :: (embedded high low).text) = true ↔
      V6.Named [0,0,0,0,0,0,high,low] ∧ ¬V6.BeyondFe80 [0,0,0,0,0,0,high,low] := by
  have notNamed : ¬V6.Named [0,0,0,0,0,0,high,low] := by
    intro named
    rcases first_zero named with one | zero | ⟨_,_,is,-⟩
    · simp only [List.cons.injEq] at one
      exact nonzero one.2.2.2.2.2.1
    · simp only [List.cons.injEq] at zero
      exact nonzero zero.2.2.2.2.2.1
    · simp only [List.cons.injEq] at is
      exact absurd is.2.2.2.2.1 (by decide)
  have dot : '.' ∈ (embedded high low).text := by simp [V4.text]
  obtain ⟨c,head,other⟩ := (Option.any_eq_true _ _).mp (decimal_head (embedded high low).a)
  obtain ⟨rest,begins⟩ := List.head?_eq_some_iff.mp head
  have notF : c.toLower ≠ 'f' := by simpa using other
  have unmapped : ipv4Mapped (':' :: ':' :: (embedded high low).text) = none := by
    simp [ipv4Mapped,V4.text,begins,lit,litI,is,matchesPrefix,notF]
  have dotted : ipv4Checks (':' :: ':' :: (embedded high low).text) = false := by
    simp [ipv4Checks,starts,lit,is,matchesPrefix]
  simp only [isPrivateIp,unmapped,Option.getD_none,dotted,Bool.false_or,ipv6Checks_colons,notNamed,false_and,iff_false]
  rintro (one | none_)
  · rw [one] at dot
    exact absurd dot (by decide)
  · rw [none_] at dot
    cases dot

theorem isPrivateIp_mapped {high low : Word} :
    isPrivateIp (':' :: ':' :: (hex 0xffff ++ ':' :: (embedded high low).text)) = true ↔
      V6.Named [0,0,0,0,0,0xffff,high,low] ∧ ¬V6.BeyondFe80 [0,0,0,0,0,0xffff,high,low] := by
  have begins : hex 0xffff = ['f','f','f','f'] := by decide
  have four : octets 3 (embedded high low).text = true := octets_text _
  have inner : ipv4Mapped (':' :: ':' :: (hex 0xffff ++ ':' :: (embedded high low).text)) =
      some (embedded high low).text := by
    simp [ipv4Mapped,begins,lit,litI,is,matchesPrefix,four]
  simp only [isPrivateIp,inner,Option.getD_some,ipv6Checks_colon (text_colon _),Bool.or_false,ipv4Checks_v4,not_beyond,
    not_false_eq_true,and_true]
  constructor
  · exact fun named => .inr (.inr (.inr ⟨high,low,rfl,named⟩))
  · intro named
    rcases first_zero named with one | zero | ⟨_,_,is,named⟩
    · simp only [List.cons.injEq] at one
      exact absurd one.2.2.2.2.1 (by decide)
    · simp only [List.cons.injEq] at zero
      exact absurd zero.2.2.2.2.1 (by decide)
    · simp only [List.cons.injEq] at is
      obtain ⟨-,-,-,-,-,rfl,rfl,-⟩ := is
      exact named

theorem isPrivateIp_begins {length : Nat} (long : 2 ≤ length)
    (eight : (List.replicate length 0 ++ rest).length = 8) (ends : rest.head? ≠ some 0)
    (unmapped : ∀ high low, List.replicate length 0 ++ rest ≠ [0,0,0,0,0,0xffff,high,low]) :
    isPrivateIp (':' :: ':' :: joined rest) = true ↔
      V6.Named (List.replicate length 0 ++ rest) ∧ ¬V6.BeyondFe80 (List.replicate length 0 ++ rest) := by
  have undotted : '.' ∉ ':' :: ':' :: joined rest := by simp [joined_dot]
  rw [isPrivateIp_undotted undotted,ipv6Checks_colons]
  obtain ⟨n,rfl⟩ : ∃ n, length = n + 1 := ⟨length - 1,by omega⟩
  have begins : List.replicate (n + 1) 0 ++ rest = 0 :: (List.replicate n 0 ++ rest) := rfl
  have sum : n + 1 + rest.length = 8 := by simpa using eight
  constructor
  · rintro (one | none_)
    · -- One word is left, and it is written as a one.
      match rest,one with
      | [],one => cases one
      | [word],one =>
        obtain rfl := hex_one.mp one
        obtain rfl : n = 6 := by simpa using sum
        exact ⟨.inl rfl,not_beyond⟩
      | first :: second :: later,one =>
        have colon : ':' ∈ ['1'] := one ▸ (by simp [joined_cons])
        exact absurd colon (by decide)
    · match rest,none_ with
      | [],_ =>
        obtain rfl : n = 7 := by simpa using sum
        exact ⟨.inr (.inl rfl),not_beyond⟩
      | [word],none_ => exact absurd none_ hex_ne_nil
      | first :: second :: later,none_ => exact absurd (none_ ▸ (by simp [joined_cons]) : ':' ∈ []) (List.not_mem_nil)
  · rintro ⟨named,-⟩
    rw [begins] at named
    rcases first_zero named with one | zero | ⟨high,low,is,-⟩
    · left
      obtain rfl : rest = [1] := run_unique (n := 6) ends (by decide) one
      exact hex_one.mpr rfl
    · right
      obtain rfl : rest = [] := run_unique (n := 7) ends (by decide) zero
      rfl
    · exact absurd (congrArg (0 :: ·) is) (unmapped high low)

variable {words : List Word}
theorem joined_zeros {rest : List Char} (eight : words.length = 8)
    (text : joined words = '0' :: ':' :: '0' :: ':' :: rest) : 2 ≤ runAt words 0 := by
  match words,eight with
  | first :: second :: third :: later,_ =>
    rw [joined_cons,joined_cons] at text
    obtain ⟨one,text⟩ := part_eq hex_colon (by decide : ':' ∉ ['0']) text
    obtain ⟨two,-⟩ := part_eq hex_colon (by decide : ':' ∉ ['0']) text
    obtain rfl := hex_zero.mp one
    obtain rfl := hex_zero.mp two
    simp [runAt]
theorem runAt_le (eight : words.length = 8) : runAt words 0 ≤ (best words).2 :=
  (bestBelow_spec words words.length).1 0 (by omega)

theorem named_first {first : Word} (later : best (first :: rest) ≠ (0,7)) (later' : best (first :: rest) ≠ (0,8))
    (later'' : best (first :: rest) ≠ (0,5)) :
    V6.Named (first :: rest) ∧ ¬V6.BeyondFe80 (first :: rest) ↔
      first = 0xfe80 ∨ 0xfc00 ≤ first ∧ first ≤ 0xfdff := by
  have bits : first = 0xfe80 ↔ first.val = 65152 := Fin.ext_iff
  have link : (0xfe80 ≤ first ∧ first ≤ 0xfebf) ↔ 65152 ≤ first.val ∧ first.val ≤ 65215 := Iff.rfl
  have ula : (0xfc00 ≤ first ∧ first ≤ 0xfdff) ↔ 64512 ≤ first.val ∧ first.val ≤ 65023 := Iff.rfl
  have beyond : V6.BeyondFe80 (first :: rest) ↔ 65153 ≤ first.val ∧ first.val ≤ 65215 := by
    constructor
    · rintro ⟨_,_,is,range⟩
      obtain ⟨rfl,-⟩ := List.cons.inj is
      exact range
    · exact fun range => ⟨first,rest,rfl,range⟩
  rw [beyond,bits,ula]
  constructor
  · rintro ⟨named,within⟩
    rcases named with one | zero | ⟨_,_,is,range⟩ | ⟨high,low,is,-⟩
    · exact absurd (by rw [one]; decide) later
    · exact absurd (by rw [zero]; decide) later'
    · obtain ⟨rfl,-⟩ := List.cons.inj is
      rw [link,ula] at range
      omega
    · exact absurd (by rw [is]; exact best_mapped) later''
  · intro range
    refine ⟨.inr (.inr (.inl ⟨first,rest,rfl,?_⟩)),by omega⟩
    rw [link,ula]
    omega

theorem isPrivateIp_plain (eight : words.length = 8) (short : (best words).2 < 2) :
    isPrivateIp (joined words) = true ↔ V6.Named words ∧ ¬V6.BeyondFe80 words := by
  have unrun : ∀ rest, joined words ≠ '0' :: ':' :: '0' :: ':' :: rest := fun rest text =>
    absurd (Nat.le_trans (joined_zeros eight text) (runAt_le eight)) (Nat.not_le_of_lt short)
  rw [isPrivateIp_undotted joined_dot]
  match words,eight with
  | first :: second :: later,eight =>
    rw [joined_cons] at unrun ⊢
    rw [ipv6Checks_word,named_first (by rintro same; rw [same] at short; contradiction)
      (by rintro same; rw [same] at short; contradiction) (by rintro same; rw [same] at short; contradiction)]
    have one : hex first ++ ':' :: joined (second :: later) ≠ "0:0:0:0:0:0:0:1".toList := unrun "0:0:0:0:0:1".toList
    have zero : hex first ++ ':' :: joined (second :: later) ≠ "0:0:0:0:0:0:0:0".toList := unrun "0:0:0:0:0:0".toList
    rw [or_iff_right one,or_iff_right zero]

theorem isPrivateIp_compressed (eight : words.length = 8) (inner : 0 < (best words).1) (rest : List Word) :
    isPrivateIp (joined (words.take (best words).1) ++ ':' :: ':' :: joined rest) = true ↔
      V6.Named words ∧ ¬V6.BeyondFe80 words := by
  have undotted : '.' ∉ joined (words.take (best words).1) ++ ':' :: ':' :: joined rest := by simp [joined_dot]
  have colons : ∀ text, ¬[':',':'] <:+: text →
      joined (words.take (best words).1) ++ ':' :: ':' :: joined rest ≠ text := by
    rintro text without rfl
    exact without ⟨_,_,(List.append_assoc ..)⟩
  rw [isPrivateIp_undotted undotted]
  have one := colons "0:0:0:0:0:0:0:1".toList (by decide)
  have zero := colons "0:0:0:0:0:0:0:0".toList (by decide)
  match words,eight with
  | first :: later,eight =>
    obtain ⟨more,begins⟩ : ∃ more,
        joined ((first :: later).take (best (first :: later)).1) ++ ':' :: ':' :: joined rest =
        hex first ++ ':' :: more := by
      obtain ⟨n,some_⟩ : ∃ n, (best (first :: later)).1 = n + 1 := ⟨_,(Nat.succ_pred_eq_of_pos inner).symm⟩
      rw [some_,List.take_succ_cons]
      cases later.take n with
      | nil => exact ⟨_,rfl⟩
      | cons second before => exact ⟨_,by rw [joined_cons,List.append_assoc,List.cons_append]⟩
    rw [begins] at one zero ⊢
    rw [ipv6Checks_word,or_iff_right one,or_iff_right zero,named_first (by rintro same; rw [same] at inner; contradiction)
      (by rintro same; rw [same] at inner; contradiction) (by rintro same; rw [same] at inner; contradiction)]

/-- The named IPv6 addresses are found, but for link-local ones that do not begin with `fe80`. -/
theorem isPrivateIp_v6 (x : V6) :
    isPrivateIp (wordsText x.words) = true ↔ V6.Named x.words ∧ ¬V6.BeyondFe80 x.words := by
  obtain ⟨words,eight⟩ := x
  cases written eight with
  | compatible high low nonzero is text =>
    subst is
    rw [text,isPrivateIp_compatible nonzero]
  | mapped high low is text =>
    subst is
    rw [text,isPrivateIp_mapped]
  | begins length rest long is ends unmapped text =>
    rw [text]
    subst is
    exact isPrivateIp_begins long eight ends unmapped
  | plain short text =>
    rw [text]
    exact isPrivateIp_plain eight short
  | compressed inner text =>
    rw [text]
    exact isPrivateIp_compressed eight inner _

/-- The named addresses that the test does not find. -/
def Missed : Address → Prop
  | .v4 _ => False
  | .v6 address => V6.BeyondFe80 address.words
theorem isPrivateIp_iff (address : Address) : isPrivateIp address.text = true ↔ Named address ∧ ¬Missed address := by
  cases address with
  | v4 address => exact (isPrivateIp_v4 address).trans ⟨fun named => ⟨named,id⟩,fun both => both.1⟩
  | v6 address => exact isPrivateIp_v6 address

end Ngotag.PrivateAddresses
