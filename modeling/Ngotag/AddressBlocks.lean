import Mathlib
import Ngotag.PrivateAddresses

/-!
Addresses as numbers, and the blocks of them that are private. The test for private addresses reads
a text, in letters of any case (`isPrivateIp_lower`). It decides membership in the blocks exactly for
the addresses outside the part of `fe80::/10` that is not `fe80::/16` (`blocks_exact_iff`).
-/
namespace Ngotag.AddressBlocks
open NetworkAddresses PrivateAddresses

def v4Value (x : V4) : Nat := x.a.val * 2 ^ 24 + x.b.val * 2 ^ 16 + x.c.val * 2 ^ 8 + x.d.val
def v6Value (words : List Word) : Nat := words.foldl (fun value word => value * 2 ^ 16 + word.val) 0
/-- The leading `bits` of `width` are the same. -/
def InBlock (width : Nat) (value base bits : Nat) : Prop := value / 2 ^ (width - bits) = base / 2 ^ (width - bits)
/-- `0.0.0.0/8`, `10.0.0.0/8`, `100.64.0.0/10`, `127.0.0.0/8`, `169.254.0.0/16`, `172.16.0.0/12` and
    `192.168.0.0/16`. -/
def v4Blocks : List (V4 × Nat) :=
  [(⟨0,0,0,0⟩,8),(⟨10,0,0,0⟩,8),(⟨100,64,0,0⟩,10),(⟨127,0,0,0⟩,8),(⟨169,254,0,0⟩,16),(⟨172,16,0,0⟩,12),(⟨192,168,0,0⟩,16)]
/-- `::/128`, `::1/128`, `fe80::/10` and `fc00::/7`. -/
def v6Blocks : List (List Word × Nat) :=
  [([0,0,0,0,0,0,0,0],128),([0,0,0,0,0,0,0,1],128),([0xfe80,0,0,0,0,0,0,0],10),([0xfc00,0,0,0,0,0,0,0],7)]
def V4Private (value : Nat) : Prop := ∃ block ∈ v4Blocks, InBlock 32 value (v4Value block.1) block.2
/-- In a block of its own, or mapped from an IPv4 address in one, in `::ffff:0:0/96`. -/
def V6Private (value : Nat) : Prop :=
  (∃ block ∈ v6Blocks, InBlock 128 value (v6Value block.1) block.2) ∨
    InBlock 128 value (v6Value [0,0,0,0,0,0xffff,0,0]) 96 ∧ V4Private (value % 2 ^ 32)
def Private : Address → Prop
  | .v4 address => V4Private (v4Value address)
  | .v6 address => V6Private (v6Value address.words)
/-- In `fe80::/10`, but not in `fe80::/16`. -/
def Overlooked : Address → Prop
  | .v4 _ => False
  | .v6 address => InBlock 128 (v6Value address.words) (v6Value [0xfe80,0,0,0,0,0,0,0]) 10 ∧
      ¬InBlock 128 (v6Value address.words) (v6Value [0xfe80,0,0,0,0,0,0,0]) 16
def hexText (words : List Word) : List Char :=
  let (base,length) := best words
  if length < 2 then joined words
  else joined (words.take base) ++ ':' :: ':' :: joined (words.drop (base + length))

/-- The text of RFC 5952, which writes a mapped address with its dots. -/
def rfc5952 : Address → List Char
  | .v4 address => address.text
  | .v6 address =>
    match address.words with
    | [0,0,0,0,0,0xffff,high,low] => ':' :: ':' :: (hex 0xffff ++ ':' :: (embedded high low).text)
    | words => hexText words
/-- A text of the address, in letters of any case: that of RFC 5952, or that of `inet_ntop`, which
    also writes an address in `::/96` with its dots. -/
def Writes (address : Address) (text : List Char) : Prop :=
  text.map Char.toLower = rfc5952 address ∨ text.map Char.toLower = address.text
instance (address : Address) (text : List Char) : Decidable (Writes address text) := inferInstanceAs (Decidable (_ ∨ _))

section
variable {c d : Char} {p : List (Char → Bool)} {text : List Char}

theorem upper_cases (upper : c.isUpper = true) : ∃ k : Fin 26, c = Char.ofNat (65 + k) := by
  simp only [Char.isUpper,ge_iff_le,decide_eq_true_eq,UInt32.le_iff_toNat_le] at upper
  obtain ⟨low,high⟩ := upper
  have least : 65 ≤ c.toNat := low
  have most : c.toNat ≤ 90 := high
  refine ⟨⟨c.toNat - 65,by omega⟩,?_⟩
  rw [Nat.add_sub_cancel' least,Char.ofNat_toNat]

theorem toLower_plain (plain : d.isAlpha = false) : c.toLower = d ↔ c = d := by
  by_cases upper : c.isUpper = true
  · have letter : c.isAlpha = true := by simp [Char.isAlpha,upper]
    constructor
    · rintro rfl
      rw [Char.isAlpha_toLower_eq_isAlpha,letter] at plain
      cases plain
    · rintro rfl
      rw [letter] at plain
      cases plain
  · rw [Char.toLower_eq_of_not_isUpper upper]

/-- Tests that do not see the case of a letter. -/
def Caseless (p : List (Char → Bool)) : Prop := ∀ test ∈ p, ∀ c : Char, test c.toLower = test c
theorem is_lower (plain : d.isAlpha = false) (c : Char) : is d c.toLower = is d c := by
  simp only [is,toLower_plain plain]
theorem isDigit_lower (c : Char) : c.toLower.isDigit = c.isDigit := by
  by_cases upper : c.isUpper = true
  · obtain ⟨k,rfl⟩ := upper_cases upper
    exact (by decide : ∀ k : Fin 26, (Char.ofNat (65 + k)).toLower.isDigit = (Char.ofNat (65 + k)).isDigit) k
  · rw [Char.toLower_eq_of_not_isUpper upper]
theorem range_lower {low high : Char} (digits : '0' ≤ low ∧ high ≤ '9') (c : Char) :
    range low high c.toLower = range low high c := by
  by_cases upper : c.isUpper = true
  · obtain ⟨k,rfl⟩ := upper_cases upper
    have past : ∀ k : Fin 26, '9' < Char.ofNat (65 + k) ∧ '9' < (Char.ofNat (65 + k)).toLower := by decide
    have out : ∀ x : Char, '9' < x → range low high x = false := fun x beyond => by
      have far : ¬x ≤ high := fun within => absurd (Char.le_trans within digits.2) (Char.not_le.mpr beyond)
      simp [range,far]
    rw [out _ (past k).2,out _ (past k).1]
  · rw [Char.toLower_eq_of_not_isUpper upper]
theorem lit_caseless {s : String} (plain : ∀ c ∈ s.toList, c.isAlpha = false) : Caseless (lit s) := by
  intro test there
  obtain ⟨c,listed,rfl⟩ := List.mem_map.mp there
  exact is_lower (plain c listed)
theorem litI_caseless {s : String} : Caseless (litI s) := by
  intro test there x
  obtain ⟨c,-,rfl⟩ := List.mem_map.mp there
  simp only [Char.toLower_toLower_eq_toLower]
@[simp] theorem caseless_append {p q : List (Char → Bool)} : Caseless (p ++ q) ↔ Caseless p ∧ Caseless q := by
  simp only [Caseless,List.mem_append,or_imp,forall_and]
@[simp] theorem caseless_cons {test : Char → Bool} : Caseless (test :: p) ↔ (∀ c : Char, test c.toLower = test c) ∧ Caseless p := by
  simp only [Caseless,List.mem_cons,forall_eq_or_imp]
@[simp] theorem caseless_nil : Caseless [] := fun _ there => nomatch there
theorem matchesPrefix_lower (caseless : Caseless p) :
    matchesPrefix p (text.map Char.toLower) = matchesPrefix p text := by
  induction p generalizing text with
  | nil => rfl
  | cons test p ih =>
    cases text with
    | nil => rfl
    | cons c text =>
      simp only [List.map_cons,matchesPrefix]
      rw [caseless test List.mem_cons_self c,ih fun other there => caseless other (List.mem_cons_of_mem _ there)]
theorem starts_lower {alternatives : List (List (Char → Bool))} (caseless : ∀ p ∈ alternatives, Caseless p) :
    starts alternatives (text.map Char.toLower) = starts alternatives text := by
  rw [starts,starts,Bool.eq_iff_iff]
  simp only [List.any_eq_true]
  exact exists_congr fun p => and_congr_right fun listed => by rw [matchesPrefix_lower (caseless p listed)]
theorem eq_lower {plain : List Char} (letterless : ∀ c ∈ plain, c.isAlpha = false) :
    text.map Char.toLower = plain ↔ text = plain := by
  induction plain generalizing text with
  | nil => simp
  | cons d rest ih =>
    cases text with
    | nil => simp
    | cons c text =>
      rw [List.map_cons,List.cons.injEq,List.cons.injEq,toLower_plain (letterless d List.mem_cons_self),
        ih fun c there => letterless c (List.mem_cons_of_mem _ there)]
theorem octet_lower : octet (text.map Char.toLower) = octet text := by
  have same : Char.isDigit ∘ Char.toLower = Char.isDigit := funext isDigit_lower
  simp only [octet,List.takeWhile_map,same,List.length_map]

theorem octets_lower {more : Nat} : octets more (text.map Char.toLower) = octets more text := by
  have same : Char.isDigit ∘ Char.toLower = Char.isDigit := funext isDigit_lower
  have dropped (text : List Char) : (text.map Char.toLower).dropWhile Char.isDigit =
      (text.dropWhile Char.isDigit).map Char.toLower := by
    rw [List.dropWhile_map,same]
  induction more generalizing text with
  | zero => simp only [octets,octet_lower,dropped,List.map_eq_nil_iff]
  | succ more ih =>
    simp only [octets,octet_lower,dropped]
    cases text.dropWhile Char.isDigit with
    | nil => rfl
    | cons c rest =>
      rw [List.map_cons]
      by_cases dot : c = '.'
      · subst dot
        exact congrArg (octet text && ·) ih
      · have lower : c.toLower ≠ '.' := fun same => dot ((toLower_plain (by decide)).mp same)
        congr 1
        split
        · next same => exact absurd (List.cons.inj same).1 lower
        · split
          · next same => exact absurd (List.cons.inj same).1 dot
          · rfl

theorem ipv4Mapped_lower : ipv4Mapped (text.map Char.toLower) = (ipv4Mapped text).map (·.map Char.toLower) := by
  have caseless : Caseless (lit "::" ++ litI "ffff" ++ [is ':']) := by
    simp (disch := simp) [lit_caseless,litI_caseless,is_lower]
  simp only [ipv4Mapped,matchesPrefix_lower caseless,← List.map_drop,octets_lower]
  split <;> rfl

theorem ipv4Checks_lower : ipv4Checks (text.map Char.toLower) = ipv4Checks text := by
  unfold ipv4Checks
  congr 1
  · congr 1
    · congr 1
      · congr 1
        · congr 1
          · congr 1
            · exact starts_lower (by simp (disch := simp) [lit_caseless,is_lower])
            · exact starts_lower (by simp (disch := simp) [lit_caseless,is_lower,range_lower])
          · exact starts_lower (by simp (disch := simp) [lit_caseless,is_lower])
        · exact starts_lower (by simp (disch := simp) [lit_caseless,is_lower])
      · exact starts_lower (by simp (disch := simp) [lit_caseless,is_lower,range_lower])
    · exact starts_lower (by simp (disch := simp) [lit_caseless,is_lower])
  · exact starts_lower (by simp (disch := simp) [lit_caseless,is_lower])

theorem hexadecimal_lower (c : Char) : hexadecimal c.toLower = hexadecimal c := by
  have digits := @range_lower '0' '9' (by decide) c
  simp only [hexadecimal,digits,Char.toLower_toLower_eq_toLower]
theorem localSecond_lower (c : Char) : localSecond c.toLower = localSecond c := by
  simp only [localSecond,Char.toLower_toLower_eq_toLower]
theorem ipv6Checks_lower : ipv6Checks (text.map Char.toLower) = ipv6Checks text := by
  have same (s : String) (plain : ∀ c ∈ s.toList, c.isAlpha = false) :
      decide (text.map Char.toLower = s.toList) = decide (text = s.toList) := decide_eq_decide.mpr (eq_lower plain)
  unfold ipv6Checks
  rw [same "::1" (by simp),same "0:0:0:0:0:0:0:1" (by simp),same "::" (by simp),same "0:0:0:0:0:0:0:0" (by simp)]
  congr 1
  · congr 1
    exact starts_lower (by simp (disch := simp) [litI_caseless,is_lower])
  · exact starts_lower (by simp (disch := simp) [litI_caseless,is_lower,hexadecimal_lower,localSecond_lower])

variable (text) in
theorem isPrivateIp_lower : isPrivateIp (text.map Char.toLower) = isPrivateIp text := by
  have inner : (ipv4Mapped (text.map Char.toLower)).getD (text.map Char.toLower) =
      ((ipv4Mapped text).getD text).map Char.toLower := by
    rw [ipv4Mapped_lower]
    cases ipv4Mapped text <;> rfl
  simp only [isPrivateIp,inner,ipv4Checks_lower,ipv6Checks_lower]

end

theorem v4Private_iff (x : V4) : V4Private (v4Value x) ↔ V4.Named x := by
  obtain ⟨⟨a,ha⟩,⟨b,hb⟩,⟨c,hc⟩,⟨d,hd⟩⟩ := x
  simp only [V4Private,v4Blocks,List.mem_cons,List.not_mem_nil,or_false,exists_eq_or_imp,exists_eq_left,InBlock,v4Value,
    V4.Named,Fin.ext_iff,Fin.le_def]
  norm_num
  omega

section
variable {a b c d e f g h : Word}

theorem v6Value_eight : v6Value [a,b,c,d,e,f,g,h] = a.val * 2 ^ 112 + b.val * 2 ^ 96 + c.val * 2 ^ 80 + d.val * 2 ^ 64 +
    e.val * 2 ^ 48 + f.val * 2 ^ 32 + g.val * 2 ^ 16 + h.val := by
  simp only [v6Value,List.foldl_cons,List.foldl_nil]
  ring
theorem embedded_value : v6Value [a,b,c,d,e,f,g,h] % 2 ^ 32 = v4Value (embedded g h) := by
  have low := h.isLt
  have high := g.isLt
  rw [v6Value_eight,v4Value,embedded]
  dsimp only
  omega

theorem inBlock_first {first : Word} {bits : Nat} (few : bits ≤ 16) :
    InBlock 128 (v6Value [a,b,c,d,e,f,g,h]) (v6Value [first,0,0,0,0,0,0,0]) bits ↔
      a.val / 2 ^ (16 - bits) = first.val / 2 ^ (16 - bits) := by
  have most := (⟨b.isLt,c.isLt,d.isLt,e.isLt,f.isLt,g.isLt,h.isLt⟩ : _ ∧ _ ∧ _ ∧ _ ∧ _ ∧ _ ∧ _)
  have word (first b c d e f g h : Word) : v6Value [first,b,c,d,e,f,g,h] / 2 ^ 112 = first.val := by
    have most := (⟨b.isLt,c.isLt,d.isLt,e.isLt,f.isLt,g.isLt,h.isLt⟩ : _ ∧ _ ∧ _ ∧ _ ∧ _ ∧ _ ∧ _)
    rw [v6Value_eight]
    omega
  have split_ : 2 ^ (128 - bits) = 2 ^ 112 * 2 ^ (16 - bits) := by
    rw [← Nat.pow_add]
    congr 1
    omega
  rw [InBlock,split_,← Nat.div_div_eq_div_mul,← Nat.div_div_eq_div_mul,word,word]

theorem inBlock_mapped : InBlock 128 (v6Value [a,b,c,d,e,f,g,h]) (v6Value [0,0,0,0,0,0xffff,0,0]) 96 ↔
    a = 0 ∧ b = 0 ∧ c = 0 ∧ d = 0 ∧ e = 0 ∧ f = 0xffff := by
  have most := (⟨f.isLt,g.isLt,h.isLt⟩ : _ ∧ _ ∧ _)
  simp only [InBlock,v6Value_eight,Fin.ext_iff]
  norm_num
  omega
theorem inBlock_whole {i j k l m n o p : Word} :
    InBlock 128 (v6Value [a,b,c,d,e,f,g,h]) (v6Value [i,j,k,l,m,n,o,p]) 128 ↔ [a,b,c,d,e,f,g,h] = [i,j,k,l,m,n,o,p] := by
  have most := (⟨b.isLt,c.isLt,d.isLt,e.isLt,f.isLt,g.isLt,h.isLt⟩ : _ ∧ _ ∧ _ ∧ _ ∧ _ ∧ _ ∧ _)
  have most' := (⟨j.isLt,k.isLt,l.isLt,m.isLt,n.isLt,o.isLt,p.isLt⟩ : _ ∧ _ ∧ _ ∧ _ ∧ _ ∧ _ ∧ _)
  simp only [InBlock,v6Value_eight,List.cons.injEq,Fin.ext_iff,Nat.sub_self,Nat.pow_zero,Nat.div_one,and_true]
  omega

end

theorem linkLocal_iff {word : Word} : word.val / 2 ^ (16 - 10) = (0xfe80 : Word).val / 2 ^ (16 - 10) ↔
    0xfe80 ≤ word ∧ word ≤ 0xfebf := by
  change word.val / 64 = 65152 / 64 ↔ 65152 ≤ word.val ∧ word.val ≤ 65215
  omega
theorem uniqueLocal_iff {word : Word} : word.val / 2 ^ (16 - 7) = (0xfc00 : Word).val / 2 ^ (16 - 7) ↔
    0xfc00 ≤ word ∧ word ≤ 0xfdff := by
  change word.val / 512 = 64512 / 512 ↔ 64512 ≤ word.val ∧ word.val ≤ 65023
  omega

theorem v6Private_iff (x : V6) : V6Private (v6Value x.words) ↔ V6.Named x.words := by
  match x with
  | ⟨[a,b,c,d,e,f,g,h],_⟩ =>
    have first : (∃ first rest, [a,b,c,d,e,f,g,h] = first :: rest ∧
        (0xfe80 ≤ first ∧ first ≤ 0xfebf ∨ 0xfc00 ≤ first ∧ first ≤ 0xfdff)) ↔
        (0xfe80 ≤ a ∧ a ≤ 0xfebf) ∨ (0xfc00 ≤ a ∧ a ≤ 0xfdff) := by
      constructor
      · rintro ⟨first,rest,is,range⟩
        obtain ⟨rfl,-⟩ := List.cons.inj is
        exact range
      · exact fun range => ⟨a,_,rfl,range⟩
    have mapped : (∃ high low, [a,b,c,d,e,f,g,h] = [0,0,0,0,0,0xffff,high,low] ∧ V4.Named (embedded high low)) ↔
        (a = 0 ∧ b = 0 ∧ c = 0 ∧ d = 0 ∧ e = 0 ∧ f = 0xffff) ∧ V4.Named (embedded g h) := by
      constructor
      · rintro ⟨high,low,is,named⟩
        simp only [List.cons.injEq,and_true] at is
        obtain ⟨rfl,rfl,rfl,rfl,rfl,rfl,rfl,rfl⟩ := is
        exact ⟨⟨rfl,rfl,rfl,rfl,rfl,rfl⟩,named⟩
      · rintro ⟨⟨rfl,rfl,rfl,rfl,rfl,rfl⟩,named⟩
        exact ⟨g,h,rfl,named⟩
    simp only [V6Private,v6Blocks,List.mem_cons,List.not_mem_nil,or_false,exists_eq_or_imp,exists_eq_left,inBlock_whole,
      inBlock_first (by decide : 10 ≤ 16),inBlock_first
      (by decide : 7 ≤ 16),inBlock_mapped,embedded_value,v4Private_iff,V6.Named,
      linkLocal_iff,uniqueLocal_iff,first,mapped]
    constructor
    · rintro ((zero | one | range) | both)
      · exact .inr (.inl zero)
      · exact .inl one
      · exact .inr (.inr (.inl range))
      · exact .inr (.inr (.inr both))
    · rintro (one | zero | range | both)
      · exact .inl (.inr (.inl one))
      · exact .inl (.inl zero)
      · exact .inl (.inr (.inr range))
      · exact .inr both

theorem isPrivate_named (address : Address) : Private address ↔ Named address := by
  cases address with
  | v4 address => exact v4Private_iff address
  | v6 address => exact v6Private_iff address

theorem overlooked_iff (address : Address) : Overlooked address ↔ Missed address := by
  cases address with
  | v4 address => exact Iff.rfl
  | v6 address =>
    match address with
    | ⟨[a,b,c,d,e,f,g,h],_⟩ =>
      have beyond : V6.BeyondFe80 [a,b,c,d,e,f,g,h] ↔ 65153 ≤ a.val ∧ a.val ≤ 65215 := by
        constructor
        · rintro ⟨first,rest,is,range⟩
          obtain ⟨rfl,-⟩ := List.cons.inj is
          exact range
        · exact fun range => ⟨a,_,rfl,range⟩
      simp only [Overlooked,Missed,beyond,inBlock_first (by decide : 10 ≤ 16),inBlock_first (by decide : 16 ≤ 16)]
      change a.val / 64 = 65152 / 64 ∧ ¬a.val / 1 = 65152 / 1 ↔ _
      omega

/-- Only the last two words are written with dots, where the others are zeros or a mapped address has them. -/
theorem dotted_cases {words : List Word} (eight : words.length = 8) (dot : '.' ∈ wordsText words) :
    (∃ high low, high ≠ 0 ∧ words = [0,0,0,0,0,0,high,low]) ∨ ∃ high low, words = [0,0,0,0,0,0xffff,high,low] := by
  cases written eight with
  | compatible high low nonzero is text => exact .inl ⟨high,low,nonzero,is⟩
  | mapped high low is text => exact .inr ⟨high,low,is⟩
  | begins length rest long is ends unmapped text =>
    rw [text] at dot
    exact absurd dot (by simp [joined_dot])
  | plain short text =>
    rw [text] at dot
    exact absurd dot joined_dot
  | compressed inner text =>
    rw [text] at dot
    exact absurd dot (by simp [joined_dot])

/-- The two texts of an IPv6 address differ where `inet_ntop` alone writes dots. -/
theorem rfc5952_cases {words : List Word} (eight : words.length = 8) :
    rfc5952 (.v6 ⟨words,eight⟩) = wordsText words ∨
      ∃ high low, high ≠ 0 ∧ words = [0,0,0,0,0,0,high,low] ∧ rfc5952 (.v6 ⟨words,eight⟩) = ':' :: ':' :: joined
      [high,low] := by
  by_cases mapped : ∃ high low, words = [0,0,0,0,0,0xffff,high,low]
  · obtain ⟨high,low,rfl⟩ := mapped
    left
    simp only [wordsText,best_mapped]
    rfl
  have unmapped : rfc5952 (.v6 ⟨words,eight⟩) = hexText words := by
    simp only [rfc5952]
    split
    · exact absurd ⟨_,_,rfl⟩ mapped
    · rfl
  rw [unmapped]
  by_cases compatible : ∃ high low, high ≠ 0 ∧ words = [0,0,0,0,0,0,high,low]
  · obtain ⟨high,low,nonzero,rfl⟩ := compatible
    refine .inr ⟨high,low,nonzero,rfl,?_⟩
    have run : best [0,0,0,0,0,0,high,low] = (0,6) := by
      by_cases zero : low = 0 <;> simp [best,bestBelow,longer,runAt,List.range_succ,nonzero,zero]
    simp only [hexText,run]
    rfl
  · left
    have undotted : '.' ∉ wordsText words := fun dot => (dotted_cases eight dot).elim compatible mapped
    have dots (x : V4) : '.' ∈ x.text := by simp [V4.text]
    simp only [wordsText,hexText] at undotted ⊢
    split
    · rfl
    · next short =>
      rw [if_neg short] at undotted
      split
      · next start six last =>
        rw [six] at last
        simp [start,six,last,dots] at undotted
      · next start five last =>
        rw [five] at last
        simp [start,five,last,dots] at undotted
      · rfl

theorem isPrivateIp_rfc5952 (address : Address) :
    isPrivateIp (rfc5952 address) = true ↔ Named address ∧ ¬Missed address := by
  cases address with
  | v4 address => exact isPrivateIp_iff (.v4 address)
  | v6 address =>
    obtain ⟨words,eight⟩ := address
    rcases rfc5952_cases eight with same | ⟨high,low,nonzero,rfl,text⟩
    · rw [same]
      exact isPrivateIp_iff (.v6 ⟨words,eight⟩)
    · rw [text]
      refine @isPrivateIp_begins [high,low] 6 (by decide) rfl ?_ ?_
      · simpa using nonzero
      · intro other last same
        simp only [List.replicate,List.cons_append,List.nil_append,List.cons.injEq] at same
        exact absurd same.2.2.2.2.2.1 (by decide)

theorem isPrivateIp_writes {address : Address} {text : List Char} (writes : Writes address text) :
    isPrivateIp text = true ↔ Private address ∧ ¬Overlooked address := by
  rw [← isPrivateIp_lower text,isPrivate_named,overlooked_iff]
  rcases writes with same | same
  · rw [same]
    exact isPrivateIp_rfc5952 address
  · rw [same]
    exact isPrivateIp_iff address

/-- The test decides membership in the blocks exactly where the address is not overlooked. -/
theorem blocks_exact_iff (address : Address) (text : List Char) (writes : Writes address text) :
    (isPrivateIp text = true ↔ Private address) ↔ ¬Overlooked address := by
  rw [isPrivateIp_writes writes]
  constructor
  · intro exact_ overlooked
    have named : Private address := by
      rw [isPrivate_named]
      cases address with
      | v4 address => exact overlooked.elim
      | v6 address =>
        obtain ⟨first,rest,is,low,high⟩ := (overlooked_iff _).mp overlooked
        exact .inr (.inr (.inl ⟨first,rest,is,.inl ⟨Nat.le_of_lt low,high⟩⟩))
    exact (exact_.mpr named).2 overlooked
  · exact fun seen => and_iff_left seen

/-- An address at the end of a range, in capitals. -/
theorem blocks_exact_iff_local :
    Writes (.v6 ⟨[0xfdff,0,0,0,0,0,0,1],rfl⟩) "FDFF::1".toList ∧
      ((isPrivateIp "FDFF::1".toList = true ↔ Private (.v6 ⟨[0xfdff,0,0,0,0,0,0,1],rfl⟩)) ↔
        ¬Overlooked (.v6 ⟨[0xfdff,0,0,0,0,0,0,1],rfl⟩)) := by
  have writes : Writes (.v6 ⟨[0xfdff,0,0,0,0,0,0,1],rfl⟩) "FDFF::1".toList := by decide +kernel
  exact ⟨writes,blocks_exact_iff _ _ writes⟩
/-- A link-local address that is not found. -/
theorem linkLocal_not_private :
    ¬∀ address text, Writes address text → (isPrivateIp text = true ↔ Private address) := by
  intro exact_
  have writes : Writes (.v6 ⟨[0xfe90,0,0,0,0,0,0,1],rfl⟩) "fe90::1".toList := by decide +kernel
  have named : Private (.v6 ⟨[0xfe90,0,0,0,0,0,0,1],rfl⟩) :=
    (isPrivate_named _).mpr (.inr (.inr (.inl ⟨0xfe90,_,rfl,.inl (by decide)⟩)))
  have found := (exact_ _ _ writes).mpr named
  exact absurd found (by decide +kernel)

end Ngotag.AddressBlocks
