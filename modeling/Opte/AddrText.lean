import Opte.Api
import Opte.Text

/-!
The text forms of the address types of `opte-api`, which the router's metadata tags carry.
Their declarations lie outside the modelled sources. An IPv4 address is written as its four
bytes in decimal joined by dots, and read back part by part as `u8`s. An IPv6 address is
written group by group in hexadecimal with its first run of zero groups as `::`, or, when it
maps an IPv4 address, as `::ffff:` and that address. A CIDR is its address and prefix length
around a slash, and reading one clears its host bits. The main result is that each type's
`FromStr` reads back what its `Display` writes.
-/

namespace Opte

def toBigEndian (base : Nat) : Nat → Nat → List Nat
  | 0, _ => []
  | count + 1, n => toBigEndian base count (n / base) ++ [n % base]

def ofBigEndian (base : Nat) (digits : List Nat) : Nat :=
  digits.foldl (fun value digit => value * base + digit) 0

section BigEndian

variable {base : Nat}

@[simp] theorem length_toBigEndian : ∀ count n, (toBigEndian base count n).length = count
  | 0, _ => rfl
  | count + 1, n => by simp [toBigEndian, length_toBigEndian count]

theorem ofBigEndian_append (digits : List Nat) (digit : Nat) :
    ofBigEndian base (digits ++ [digit]) = ofBigEndian base digits * base + digit := by
  simp [ofBigEndian, List.foldl_append]

theorem ofBigEndian_toBigEndian :
    ∀ count n, ofBigEndian base (toBigEndian base count n) = n % base ^ count
  | 0, n => by simp [toBigEndian, ofBigEndian, Nat.mod_one]
  | count + 1, n => by
      rw [toBigEndian, ofBigEndian_append, ofBigEndian_toBigEndian count, pow_succ', Nat.mod_mul]
      ring

theorem toBigEndian_lt (positive : 0 < base) :
    ∀ {count n d}, d ∈ toBigEndian base count n → d < base
  | 0, _, _, member => by cases member
  | count + 1, n, d, member => by
      rcases List.mem_append.mp member with earlier | last
      · exact toBigEndian_lt positive earlier
      · rw [List.mem_singleton.mp last]
        exact Nat.mod_lt n positive

theorem ofBigEndian_lt :
    ∀ digits : List Nat, (∀ d ∈ digits, d < base) → ofBigEndian base digits < base ^ digits.length := by
  intro digits
  induction digits using List.reverseRecOn with
  | nil => intro _; exact Nat.one_pos
  | append_singleton digits digit ih =>
      intro small
      have front := ih fun d member => small d (by simp [member])
      have last := small digit (by simp)
      rw [ofBigEndian_append, List.length_append, List.length_singleton, pow_succ]
      calc ofBigEndian base digits * base + digit
          < ofBigEndian base digits * base + base := by omega
        _ = (ofBigEndian base digits + 1) * base := by ring
        _ ≤ base ^ digits.length * base := Nat.mul_le_mul_right _ front

theorem toBigEndian_ofBigEndian (positive : 0 < base) :
    ∀ digits : List Nat, (∀ d ∈ digits, d < base) →
      toBigEndian base digits.length (ofBigEndian base digits) = digits := by
  intro digits
  induction digits using List.reverseRecOn with
  | nil => intro _; rfl
  | append_singleton digits digit ih =>
      intro small
      have last := small digit (by simp)
      have quotient : (ofBigEndian base digits * base + digit) / base = ofBigEndian base digits := by
        rw [Nat.add_comm, Nat.add_mul_div_right _ _ positive, Nat.div_eq_of_lt last, Nat.zero_add]
      have remainder : (ofBigEndian base digits * base + digit) % base = digit := by
        rw [Nat.add_comm, Nat.add_mul_mod_self_right, Nat.mod_eq_of_lt last]
      rw [List.length_append, List.length_singleton, toBigEndian, ofBigEndian_append, quotient,
        remainder, ih fun d member => small d (by simp [member])]

end BigEndian

theorem not_mem_intercalate {α : Type} {sep c : α} (notSep : c ≠ sep) :
    ∀ {parts : List (List α)}, (∀ part ∈ parts, c ∉ part) → c ∉ [sep].intercalate parts
  | [], _ => by simp [List.intercalate]
  | [part], absent => by simpa [List.intercalate] using absent part (List.mem_singleton_self _)
  | part :: next :: parts, absent => by
      have rest := not_mem_intercalate notSep fun p member => absent p (List.mem_cons_of_mem _ member)
      simp only [List.intercalate, List.intersperse_cons₂, List.flatten_cons, List.mem_append,
        List.mem_singleton, not_or] at rest ⊢
      exact ⟨absent part (List.mem_cons_self _ _), notSep, rest⟩

/-! ### IPv4 -/

def ipv4Text (value : Nat) : List Char :=
  ['.'].intercalate ((toBigEndian 256 4 value).map decimal)

/-- Modelled from the spec: the `Display` of `Ipv4Addr`, its four bytes in decimal joined by
dots. -/
def Ipv4Addr.display (ip : Ipv4Addr) : String :=
  ⟨ipv4Text ip.bits.toNat⟩

/-- Modelled from the spec: the `FromStr` of `Ipv4Addr`: the text split at its dots, each
part read as a `u8`, and four parts wanted. -/
def Ipv4Addr.fromStr (val : String) : Except String Ipv4Addr :=
  match (val.data.splitOn '.').mapM fun part => (fromStrRadix 8 10 part).mapError (·.description) with
  | .error err => .error err
  | .ok octets =>
      if octets.length = 4 then .ok ⟨BitVec.ofNat 32 (ofBigEndian 256 octets)⟩
      else .error ("malformed ip: " ++ val)

theorem not_mem_decimal {c : Char} (notDigit : ∀ d < 10, Nat.digitChar d ≠ c) (n : Nat) :
    c ∉ decimal n :=
  not_mem_toDigits (by norm_num) notDigit n

theorem not_mem_ipv4Text {c : Char} (notDot : c ≠ '.') (notDigit : ∀ d < 10, Nat.digitChar d ≠ c)
    (value : Nat) : c ∉ ipv4Text value :=
  not_mem_intercalate notDot fun _ member => by
    obtain ⟨byte, -, rfl⟩ := List.mem_map.mp member
    exact not_mem_decimal notDigit byte

theorem ipv4Text_fromStr {value : Nat} (fits : value < 2 ^ 32) :
    Ipv4Addr.fromStr ⟨ipv4Text value⟩ = .ok ⟨BitVec.ofNat 32 value⟩ := by
  have parts : (ipv4Text value).splitOn '.' = (toBigEndian 256 4 value).map decimal :=
    List.splitOn_intercalate _ _ (fun _ member => by
      obtain ⟨byte, -, rfl⟩ := List.mem_map.mp member
      exact not_mem_decimal (by decide) byte) (List.ne_nil_of_length_pos (by simp))
  have bytes : ((toBigEndian 256 4 value).map decimal).mapM
      (fun part => (fromStrRadix 8 10 part).mapError (·.description)) =
      .ok (toBigEndian 256 4 value) :=
    mapM_map_pure fun byte member => by
      rw [fromStrRadix_decimal (toBigEndian_lt (by norm_num) member)]
      rfl
  have whole : value % 256 ^ 4 = value := Nat.mod_eq_of_lt (by simpa using fits)
  simp only [Ipv4Addr.fromStr, parts, bytes]
  rw [if_pos (length_toBigEndian 4 value), ofBigEndian_toBigEndian, whole]

@[simp] theorem Ipv4Addr.fromStr_display (ip : Ipv4Addr) : Ipv4Addr.fromStr ip.display = .ok ip := by
  rw [Ipv4Addr.display, ipv4Text_fromStr ip.bits.isLt, BitVec.ofNat_toNat, BitVec.setWidth_eq]

/-! ### IPv6 -/

def hex (word : Nat) : List Char :=
  Nat.toDigits 16 word

inductive Ipv6TextState
  | head
  | headBody
  | tail
  | tailBody

/-- Modelled from the spec: the loop of the `Display` of `Ipv6Addr` over the groups. The
first zero group writes `::` and the zeros right after it are skipped; from the next nonzero
group on, every group is written. -/
def ipv6Text : Ipv6TextState → List Nat → List Char
  | _, [] => []
  | .head, word :: words =>
      if word = 0 then ':' :: ':' :: ipv6Text .tail words else hex word ++ ipv6Text .headBody words
  | .headBody, word :: words =>
      if word = 0 then ':' :: ':' :: ipv6Text .tail words
      else ':' :: hex word ++ ipv6Text .headBody words
  | .tail, word :: words =>
      if word = 0 then ipv6Text .tail words else hex word ++ ipv6Text .tailBody words
  | .tailBody, word :: words => ':' :: hex word ++ ipv6Text .tailBody words

def Ipv6Addr.words (ip : Ipv6Addr) : List Nat :=
  toBigEndian 65536 8 ip.bits.toNat

/-- Modelled from the spec: the `Display` of `Ipv6Addr` over its eight groups: an IPv4-mapped
address as `::ffff:` and its last four bytes dotted, any other through the loop `ipv6Text`. -/
def ipv6DisplayText (words : List Nat) : List Char :=
  if words.take 6 = [0, 0, 0, 0, 0, 0xffff] then
    "::ffff:".data ++ ipv4Text (ofBigEndian 65536 (words.drop 6))
  else ipv6Text .head words

def Ipv6Addr.display (ip : Ipv6Addr) : String :=
  ⟨ipv6DisplayText ip.words⟩

def splitDoubleColon : List Char → Option (List Char × List Char)
  | [] => none
  | c :: rest =>
      if c = ':' ∧ rest.head? = some ':' then some ([], rest.tail)
      else (splitDoubleColon rest).map fun (before, after) => (c :: before, after)

def hexGroup (text : List Char) : Option Nat :=
  if text ≠ [] ∧ text.length ≤ 4 then (accumulate 16 16 text 0).toOption else none

def ipv6Groups : List (List Char) → Option (List Nat)
  | [] => some []
  | field :: rest =>
      if rest = [] ∧ '.' ∈ field then
        (Ipv4Addr.fromStr ⟨field⟩).toOption.map fun ip => toBigEndian 65536 2 ip.bits.toNat
      else do
        let word ← hexGroup field
        let words ← ipv6Groups rest
        pure (word :: words)

def headGroups (before : List Char) : Option (List Nat) :=
  if before = [] then some [] else (before.splitOn ':').mapM hexGroup

def tailGroups (after : List Char) : Option (List Nat) :=
  if after = [] then some [] else ipv6Groups (after.splitOn ':')

def ipv6Words (text : List Char) : Option (List Nat) :=
  match splitDoubleColon text with
  | some (before, after) => do
      let head ← headGroups before
      let tail ← tailGroups after
      if head.length + tail.length < 8 then
        some (head ++ List.replicate (8 - head.length - tail.length) 0 ++ tail)
      else none
  | none => do
      let words ← ipv6Groups (text.splitOn ':')
      if words.length = 8 then some words else none

/-- Modelled from the spec: the `FromStr` of `Ipv6Addr`, the text form of RFC 4291: groups of
one to four hexadecimal digits, at most one `::` for a run of zero groups, and an IPv4
address in place of the last two groups. -/
def Ipv6Addr.fromStr (val : String) : Except String Ipv6Addr :=
  match ipv6Words val.data with
  | some words => .ok ⟨BitVec.ofNat 128 (ofBigEndian 65536 words)⟩
  | none => .error ("invalid IPv6 address: " ++ val)

def groupsText (words : List Nat) : List Char :=
  [':'].intercalate (words.map hex)

theorem hex_cons (word : Nat) : ∃ d rest, d < 16 ∧ hex word = Nat.digitChar d :: rest :=
  toDigitsCore_head (by norm_num) word word []

theorem not_mem_hex {c : Char} (notDigit : ∀ d < 16, Nat.digitChar d ≠ c) (word : Nat) :
    c ∉ hex word :=
  not_mem_toDigits (by norm_num) notDigit word

theorem hexGroup_hex {word : Nat} (small : word < 65536) : hexGroup (hex word) = some word := by
  obtain ⟨d, rest, -, head⟩ := hex_cons word
  have short : (hex word).length ≤ 4 :=
    Nat.toDigitsCore_length 16 (by norm_num) (word + 1) word 4 (by norm_num; omega) (by norm_num)
  have read : accumulate 16 16 (hex word) 0 = accumulate 16 16 [] word :=
    accumulate_toDigitsCore (by norm_num) (by decide) (word + 1) word [] (by omega)
      (by norm_num; omega)
  rw [hexGroup, if_pos ⟨by rw [head]; exact List.cons_ne_nil _ _, short⟩, read]
  rfl

theorem groupsText_cons (word : Nat) :
    ∀ words, groupsText (word :: words) = hex word ++ words.flatMap fun w => ':' :: hex w
  | [] => by simp [groupsText, List.intercalate]
  | next :: words => by
      have rest := groupsText_cons next words
      simp only [groupsText, List.intercalate, List.map_cons, List.intersperse_cons₂,
        List.flatten_cons] at rest ⊢
      rw [rest]
      simp

theorem groupsText_splitOn {words : List Nat} (nonempty : words ≠ []) :
    (groupsText words).splitOn ':' = words.map hex :=
  List.splitOn_intercalate _ _ (fun _ member => by
    obtain ⟨word, -, rfl⟩ := List.mem_map.mp member
    exact not_mem_hex (by decide) word) (by simpa using nonempty)

theorem mapM_hexGroup {words : List Nat} (small : ∀ w ∈ words, w < 65536) :
    (words.map hex).mapM hexGroup = some words :=
  mapM_map_pure fun w member => hexGroup_hex (small w member)

theorem ipv6Groups_hex : ∀ {words : List Nat}, (∀ w ∈ words, w < 65536) →
    ipv6Groups (words.map hex) = some words
  | [], _ => rfl
  | word :: words, small => by
      have noDot : ¬ (words.map hex = [] ∧ '.' ∈ hex word) :=
        fun ⟨_, dot⟩ => not_mem_hex (by decide) word dot
      rw [List.map_cons, ipv6Groups, if_neg noDot, hexGroup_hex (small word (List.mem_cons_self _ _)),
        ipv6Groups_hex fun w member => small w (List.mem_cons_of_mem _ member)]
      rfl

theorem splitDoubleColon_append {front : List Char} (noColon : ':' ∉ front) (rest : List Char) :
    splitDoubleColon (front ++ rest) =
      (splitDoubleColon rest).map fun (before, after) => (front ++ before, after) := by
  induction front with
  | nil => simp
  | cons c front ih =>
      simp only [List.mem_cons, not_or] at noColon
      simp [splitDoubleColon, Ne.symm noColon.1, ih noColon.2, Option.map_map, Function.comp_def]

theorem splitDoubleColon_colon {c : Char} (notColon : c ≠ ':') (rest : List Char) :
    splitDoubleColon (':' :: c :: rest) =
      (splitDoubleColon (c :: rest)).map fun (before, after) => (':' :: before, after) := by
  rw [splitDoubleColon, if_neg (by simp [notColon])]

theorem splitDoubleColon_groupsText (word : Nat) :
    ∀ (words : List Nat) (rest : List Char), splitDoubleColon (groupsText (word :: words) ++ rest) =
      (splitDoubleColon rest).map fun (before, after) => (groupsText (word :: words) ++ before, after)
  | [], rest => by
      rw [show groupsText [word] = hex word by simp [groupsText, List.intercalate]]
      exact splitDoubleColon_append (not_mem_hex (by decide) word) rest
  | next :: words, rest => by
      obtain ⟨d, digits, small, head⟩ := hex_cons next
      have notColon : Nat.digitChar d ≠ ':' := (by decide : ∀ d < 16, Nat.digitChar d ≠ ':') d small
      have split : groupsText (word :: next :: words) = hex word ++ ':' :: groupsText (next :: words) := by
        rw [groupsText_cons, groupsText_cons, List.flatMap_cons]
        rfl
      have starts : groupsText (next :: words) ++ rest = Nat.digitChar d :: (digits ++
          (words.flatMap fun w => ':' :: hex w) ++ rest) := by
        rw [groupsText_cons, head]
        simp
      rw [split, List.append_assoc, splitDoubleColon_append (not_mem_hex (by decide) word),
        List.cons_append, starts, splitDoubleColon_colon notColon, ← starts,
        splitDoubleColon_groupsText next words rest]
      simp [Option.map_map, Function.comp_def]

theorem ipv6Text_tailBody : ∀ words, ipv6Text .tailBody words = words.flatMap fun w => ':' :: hex w
  | [] => rfl
  | word :: words => by simp [ipv6Text, ipv6Text_tailBody words]

theorem ipv6Text_tail : ∀ words, ipv6Text .tail words = groupsText (words.dropWhile (· = 0))
  | [] => rfl
  | word :: words => by
      by_cases zero : word = 0
      · simp [ipv6Text, zero, ipv6Text_tail words]
      · simp [ipv6Text, zero, ipv6Text_tailBody, groupsText_cons]

theorem ipv6Text_headBody (rest : List Nat) :
    ∀ nonzero : List Nat, (∀ w ∈ nonzero, w ≠ 0) →
      ipv6Text .headBody (nonzero ++ rest) =
        (nonzero.flatMap fun w => ':' :: hex w) ++ ipv6Text .headBody rest
  | [], _ => rfl
  | word :: words, nonzero => by
      have first := nonzero word (List.mem_cons_self _ _)
      simp [ipv6Text, first, ipv6Text_headBody rest words fun w member =>
        nonzero w (List.mem_cons_of_mem _ member)]

theorem ipv6Text_head_nonzero {words : List Nat} (nonzero : ∀ w ∈ words, w ≠ 0) :
    ipv6Text .head words = groupsText words := by
  cases words with
  | nil => rfl
  | cons word words =>
      have body := ipv6Text_headBody [] words fun w member => nonzero w (List.mem_cons_of_mem _ member)
      simp only [List.append_nil] at body
      simp [ipv6Text, nonzero word (List.mem_cons_self _ _), body, groupsText_cons]

theorem ipv6Text_head_zero {nonzero : List Nat} (allNonzero : ∀ w ∈ nonzero, w ≠ 0) (rest : List Nat) :
    ipv6Text .head (nonzero ++ 0 :: rest) =
      groupsText nonzero ++ ':' :: ':' :: groupsText (rest.dropWhile (· = 0)) := by
  cases nonzero with
  | nil => simp [ipv6Text, ipv6Text_tail, groupsText, List.intercalate]
  | cons word words =>
      have body := ipv6Text_headBody (0 :: rest) words fun w member =>
        allNonzero w (List.mem_cons_of_mem _ member)
      simp [ipv6Text, allNonzero word (List.mem_cons_self _ _), body, ipv6Text_tail, groupsText_cons]

theorem groupsText_eq_nil {words : List Nat} : groupsText words = [] ↔ words = [] := by
  cases words with
  | nil => exact iff_of_true rfl rfl
  | cons word words =>
      obtain ⟨d, rest, -, head⟩ := hex_cons word
      simp [groupsText_cons, head]

theorem headGroups_groupsText {words : List Nat} (small : ∀ w ∈ words, w < 65536) :
    headGroups (groupsText words) = some words := by
  by_cases empty : words = []
  · rw [headGroups, if_pos (groupsText_eq_nil.mpr empty), empty]
  · rw [headGroups, if_neg (mt groupsText_eq_nil.mp empty), groupsText_splitOn empty,
      mapM_hexGroup small]

theorem tailGroups_groupsText {words : List Nat} (small : ∀ w ∈ words, w < 65536) :
    tailGroups (groupsText words) = some words := by
  by_cases empty : words = []
  · rw [tailGroups, if_pos (groupsText_eq_nil.mpr empty), empty]
  · rw [tailGroups, if_neg (mt groupsText_eq_nil.mp empty), groupsText_splitOn empty,
      ipv6Groups_hex small]

theorem ipv6Words_groupsText {words : List Nat} (small : ∀ w ∈ words, w < 65536)
    (eight : words.length = 8) : ipv6Words (groupsText words) = some words := by
  obtain ⟨word, rest, rfl⟩ := List.exists_cons_of_length_eq_add_one eight
  have noPair : splitDoubleColon (groupsText (word :: rest)) = none := by
    simpa using splitDoubleColon_groupsText word rest []
  simp only [ipv6Words, noPair, groupsText_splitOn (List.cons_ne_nil word rest), ipv6Groups_hex small,
    Option.bind_eq_bind, Option.some_bind, eight, if_true]

theorem ipv6Words_compressed {head tail : List Nat} (smallHead : ∀ w ∈ head, w < 65536)
    (smallTail : ∀ w ∈ tail, w < 65536) (short : head.length + tail.length < 8) :
    ipv6Words (groupsText head ++ ':' :: ':' :: groupsText tail) =
      some (head ++ List.replicate (8 - head.length - tail.length) 0 ++ tail) := by
  have pair : splitDoubleColon (groupsText head ++ ':' :: ':' :: groupsText tail) =
      some (groupsText head, groupsText tail) := by
    cases head with
    | nil => simp [groupsText, List.intercalate, splitDoubleColon]
    | cons word words => simp [splitDoubleColon_groupsText, splitDoubleColon]
  simp only [ipv6Words, pair, headGroups_groupsText smallHead, tailGroups_groupsText smallTail,
    Option.bind_eq_bind, Option.some_bind, if_pos short]

theorem ipv6Words_mapped {low : List Nat} (two : low.length = 2) (small : ∀ w ∈ low, w < 65536) :
    ipv6Words ("::ffff:".data ++ ipv4Text (ofBigEndian 65536 low)) = some ([0, 0, 0, 0, 0, 0xffff] ++ low) := by
  have fits : ofBigEndian 65536 low < 2 ^ 32 := by simpa [two] using ofBigEndian_lt low small
  have dot : '.' ∈ ipv4Text (ofBigEndian 65536 low) := by
    simp [ipv4Text, toBigEndian, List.intercalate]
  have fields : ("ffff".data ++ ':' :: ipv4Text (ofBigEndian 65536 low)).splitOn ':' =
      ["ffff".data, ipv4Text (ofBigEndian 65536 low)] := by
    have joined : "ffff".data ++ ':' :: ipv4Text (ofBigEndian 65536 low) =
        [':'].intercalate ["ffff".data, ipv4Text (ofBigEndian 65536 low)] := by
      simp [List.intercalate]
    rw [joined]
    refine List.splitOn_intercalate _ _ (fun field member => ?_) (List.cons_ne_nil _ _)
    rcases List.mem_pair.mp member with rfl | rfl
    · decide
    · exact not_mem_ipv4Text (by decide) (by decide) _
  have tail : ipv6Groups ["ffff".data, ipv4Text (ofBigEndian 65536 low)] = some (0xffff :: low) := by
    have last : ipv6Groups [ipv4Text (ofBigEndian 65536 low)] = some low := by
      rw [ipv6Groups, if_pos ⟨rfl, dot⟩, ipv4Text_fromStr fits]
      simp only [Except.toOption, Option.map_some', BitVec.toNat_ofNat, Nat.mod_eq_of_lt fits]
      rw [← two, toBigEndian_ofBigEndian (by norm_num) low small]
    rw [ipv6Groups, if_neg (by simp), last]
    rfl
  have pair : splitDoubleColon ("::ffff:".data ++ ipv4Text (ofBigEndian 65536 low)) =
      some ([], "ffff".data ++ ':' :: ipv4Text (ofBigEndian 65536 low)) := rfl
  have tailRead : tailGroups ("ffff".data ++ ':' :: ipv4Text (ofBigEndian 65536 low)) =
      some (0xffff :: low) := by
    rw [tailGroups, if_neg (by simp), fields, tail]
  simp only [ipv6Words, pair, headGroups, if_true, tailRead, Option.bind_eq_bind, Option.some_bind]
  rw [if_pos (by simp [two])]
  simp [two]

theorem Ipv6Addr.words_spec (ip : Ipv6Addr) :
    ip.words.length = 8 ∧ (∀ w ∈ ip.words, w < 65536) ∧ ofBigEndian 65536 ip.words = ip.bits.toNat :=
  ⟨length_toBigEndian 8 _, fun _ member => toBigEndian_lt (by norm_num) member, by
    rw [Ipv6Addr.words, ofBigEndian_toBigEndian, Nat.mod_eq_of_lt (by simpa using ip.bits.isLt)]⟩

theorem ipv6Words_displayText {words : List Nat} (eight : words.length = 8)
    (small : ∀ w ∈ words, w < 65536) : ipv6Words (ipv6DisplayText words) = some words := by
  unfold ipv6DisplayText
  split_ifs with mapped
  · have whole : words = [0, 0, 0, 0, 0, 0xffff] ++ words.drop 6 := by
      rw [← mapped, List.take_append_drop]
    have mappedWords := @ipv6Words_mapped (words.drop 6) (by simp [eight])
      fun w member => small w (List.mem_of_mem_drop member)
    rwa [← whole] at mappedWords
  · rcases split : words.dropWhile (· ≠ 0) with _ | ⟨first, rest⟩
    · have nonzero : ∀ w ∈ words, w ≠ 0 := fun w member => by
        simpa using List.dropWhile_eq_nil_iff.mp split w member
      rw [ipv6Text_head_nonzero nonzero]
      exact ipv6Words_groupsText small eight
    · have notKept := List.head?_dropWhile_not (fun w => decide (w ≠ 0)) words
      rw [split] at notKept
      have isZero : first = 0 := by simpa using notKept
      have whole := List.takeWhile_append_dropWhile (· ≠ 0) words
      rw [split, isZero] at whole
      have nonzero : ∀ w ∈ words.takeWhile (· ≠ 0), w ≠ 0 := fun w member => by
        simpa using List.mem_takeWhile_imp member
      have zeros := List.takeWhile_append_dropWhile (· = 0) rest
      have allZero : rest.takeWhile (· = 0) = List.replicate (rest.takeWhile (· = 0)).length 0 :=
        List.eq_replicate_iff.mpr ⟨rfl, fun w member => by simpa using List.mem_takeWhile_imp member⟩
      have inWords : ∀ w, w ∈ words.takeWhile (· ≠ 0) ∨ w ∈ rest → w < 65536 := fun w member =>
        small w (by rw [← whole]; simp only [List.mem_append, List.mem_cons]; tauto)
      have lengths := congrArg List.length whole
      have restLength := congrArg List.length zeros
      simp only [List.length_append, List.length_cons] at lengths restLength
      rw [← whole, ipv6Text_head_zero nonzero,
        ipv6Words_compressed (fun w member => inWords w (.inl member))
          (fun w member => inWords w (.inr ((List.dropWhile_suffix _).subset member))) (by omega)]
      have count : 8 - (words.takeWhile (· ≠ 0)).length - (rest.dropWhile (· = 0)).length =
          (rest.takeWhile (· = 0)).length + 1 := by omega
      rw [count, List.replicate_succ, ← allZero, List.append_assoc, List.cons_append, zeros]

@[simp] theorem Ipv6Addr.fromStr_display (ip : Ipv6Addr) : Ipv6Addr.fromStr ip.display = .ok ip := by
  obtain ⟨eight, small, value⟩ := ip.words_spec
  simp only [Ipv6Addr.fromStr, Ipv6Addr.display, ipv6Words_displayText eight small, value,
    BitVec.ofNat_toNat, BitVec.setWidth_eq]

theorem not_mem_ipv6Text {c : Char} (notColon : c ≠ ':') (notDigit : ∀ d < 16, Nat.digitChar d ≠ c)
    (words : List Nat) : ∀ state, c ∉ ipv6Text state words := by
  induction words with
  | nil => intro state; cases state <;> exact List.not_mem_nil c
  | cons word words ih =>
      have digits := not_mem_hex notDigit word
      intro state
      cases state <;> simp only [ipv6Text] <;> (try split_ifs) <;>
        simp [List.mem_append, List.mem_cons, notColon, digits, ih]

theorem slash_not_mem_ipv6DisplayText (words : List Nat) : '/' ∉ ipv6DisplayText words := by
  unfold ipv6DisplayText
  split_ifs
  · exact fun member => (List.mem_append.mp member).elim (by decide)
      (not_mem_ipv4Text (by decide) (by decide) _)
  · exact not_mem_ipv6Text (by decide) (by decide) _ _

theorem slash_not_mem_ipv6Display (ip : Ipv6Addr) : '/' ∉ ip.display.data := by
  rw [Ipv6Addr.display]
  generalize ip.words = words
  exact slash_not_mem_ipv6DisplayText words

theorem slash_not_mem_ipv4Display (ip : Ipv4Addr) : '/' ∉ ip.display.data :=
  not_mem_ipv4Text (by decide) (by decide) _

/-! ### CIDRs -/

def cidrText {max : Nat} (addrText : String) (prefixLen : PrefixLen max) : List Char :=
  addrText.data ++ '/' :: decimal prefixLen.val.toNat

/-- Modelled from the spec: the `Display` of `Ipv4Cidr`, its address and prefix length around
a slash. -/
def Ipv4Cidr.display (cidr : Ipv4Cidr) : String :=
  ⟨cidrText cidr.ip.display cidr.prefixLen⟩

/-- Modelled from the spec: the `Display` of `Ipv6Cidr`, as that of `Ipv4Cidr`. -/
def Ipv6Cidr.display (cidr : Ipv6Cidr) : String :=
  ⟨cidrText cidr.ip.display cidr.prefixLen⟩

/-- Modelled from the spec: the `FromStr` of the CIDR types: the text split at its slash, the
address read, the prefix length read as a `u8` and checked, and the CIDR built by `new`,
which clears its host bits. -/
def cidrFromStr {Addr Cidr : Type} (max : Nat) (addrFromStr : String → Except String Addr)
    (new : Addr → PrefixLen max → Cidr) (val : String) : Except String Cidr :=
  match splitOnce '/' val.data with
  | none => .error ("no slash in CIDR: " ++ val)
  | some (ipText, prefixText) => do
      let ip ← addrFromStr ⟨ipText⟩
      let raw ← (fromStrRadix 8 10 prefixText).mapError (·.description)
      let prefixLen ← PrefixLen.new max (UInt8.ofNat raw)
      pure (new ip prefixLen)

def Ipv4Cidr.fromStr : String → Except String Ipv4Cidr :=
  cidrFromStr 32 Ipv4Addr.fromStr Ipv4Cidr.new

def Ipv6Cidr.fromStr : String → Except String Ipv6Cidr :=
  cidrFromStr 128 Ipv6Addr.fromStr Ipv6Cidr.new

theorem cidrFromStr_cidrText {Addr Cidr : Type} {max : Nat}
    {addrFromStr : String → Except String Addr} (new : Addr → PrefixLen max → Cidr)
    {addrText : String} {addr : Addr} (noSlash : '/' ∉ addrText.data)
    (reads : addrFromStr addrText = .ok addr) (prefixLen : PrefixLen max) :
    cidrFromStr max addrFromStr new ⟨cidrText addrText prefixLen⟩ = .ok (new addr prefixLen) := by
  have raw : fromStrRadix 8 10 (decimal prefixLen.val.toNat) = .ok prefixLen.val.toNat :=
    fromStrRadix_decimal prefixLen.val.toNat_lt_size
  have sameByte : UInt8.ofNat prefixLen.val.toNat = prefixLen.val :=
    UInt8.eq_of_val_eq (Fin.ext (Nat.mod_eq_of_lt prefixLen.val.toNat_lt_size))
  have checked : PrefixLen.new max (UInt8.ofNat prefixLen.val.toNat) = .ok prefixLen := by
    rw [sameByte, PrefixLen.new, dif_pos prefixLen.le]
  have eta : (⟨addrText.data⟩ : String) = addrText := rfl
  simp only [cidrFromStr, cidrText, splitOnce_append noSlash, eta, reads, raw, bind, Except.bind,
    Except.mapError, checked]
  rfl

@[simp] theorem Ipv4Cidr.fromStr_display (cidr : Ipv4Cidr) : Ipv4Cidr.fromStr cidr.display = .ok cidr := by
  rw [Ipv4Cidr.fromStr, Ipv4Cidr.display, cidrFromStr_cidrText Ipv4Cidr.new
    (slash_not_mem_ipv4Display cidr.ip) (Ipv4Addr.fromStr_display cidr.ip), Ipv4Cidr.new_self]

@[simp] theorem Ipv6Cidr.fromStr_display (cidr : Ipv6Cidr) : Ipv6Cidr.fromStr cidr.display = .ok cidr := by
  rw [Ipv6Cidr.fromStr, Ipv6Cidr.display, cidrFromStr_cidrText Ipv6Cidr.new
    (slash_not_mem_ipv6Display cidr.ip) (Ipv6Addr.fromStr_display cidr.ip), Ipv6Cidr.new_self]

end Opte
