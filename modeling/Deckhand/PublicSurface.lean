import Mathlib.Algebra.Group.Nat.Defs
import Mathlib.Data.List.Infix
import Deckhand.Lib.Regex

namespace Deckhand
open Lib

def isBetween (low high c : Char) : Bool := low ≤ c && c ≤ high

def isAsciiDigit (c : Char) : Bool := isBetween '0' '9' c

/-- `[A-Za-z0-9.]` -/
def isAddressChar (c : Char) : Bool :=
  isBetween 'A' 'Z' c || isBetween 'a' 'z' c || isAsciiDigit c || c = '.'

/-- What a letter is compared as under `re.IGNORECASE`: four letters outside ASCII count as ASCII
letters too. -/
def ignoreCase (c : Char) : Char :=
  if isBetween 'A' 'Z' c then .ofNat (c.toNat + 0x20)
  else if c.toNat = 0x130 ∨ c.toNat = 0x131 then 'i'
  else if c.toNat = 0x17f then 's'
  else if c.toNat = 0x212a then 'k'
  else c

def lowerAlnum (c : Char) : Bool := isBetween 'a' 'z' (ignoreCase c) || isAsciiDigit c

def labelChar (c : Char) : Bool := lowerAlnum c || c = '-'

def lowerHex (c : Char) : Bool := isBetween 'a' 'f' (ignoreCase c) || isAsciiDigit c

namespace Pattern
open Regex

def dot : Regex := .set fun c => c = '.'

def exactly (text : String) : Regex := word (fun letter c => c = letter) text.toList

def caseless (text : String) : Regex := word (fun letter c => ignoreCase c = letter) text.toList

def octet : Regex := .many (.set isAsciiDigit) 1 (some 3)

/-- `IPV4` -/
def ipv4 : Regex :=
  .seq (.notBehind isAddressChar) <| .seq (.many (.seq octet dot) 3 (some 3)) <|
    .seq octet (.notAhead isAddressChar)

def labels : Regex :=
  .seq (.set lowerAlnum) <|
    .seq (.many (.seq (.many (.set labelChar) 0 (some 61)) (.set lowerAlnum)) 0 (some 1)) <|
      .seq (.many (.seq dot (.many (.set labelChar) 1 none)) 0 none) dot

/-- `PRIVATE_DNS`; `isWord` is what `\w` accepts. -/
def privateDns (isWord : Char → Bool) : Regex :=
  .seq (.boundary isWord) <| .seq labels <|
    .seq (.alt (caseless "internal") (.alt (caseless "lan") (caseless "local"))) (.boundary isWord)

/-- `TAILNET_DNS` -/
def tailnetDns (isWord : Char → Bool) : Regex :=
  .seq (.boundary isWord) <| .seq labels <|
    .seq (caseless "ts") <| .seq dot <| .seq (caseless "net") (.boundary isWord)

/-- `PRIVATE_IPV6` -/
def privateIpv6 : Regex :=
  .seq (.notBehind fun c => lowerHex c || c = ':') <| .seq (caseless "f") <|
    .seq (.set fun c => ignoreCase c = 'c' || ignoreCase c = 'd') <|
      .seq (.many (.set lowerHex) 2 (some 2)) <| .seq (exactly ":") <|
        .many (.set fun c => lowerHex c || c = ':') 1 none

def isAsciiAlnum (c : Char) : Bool :=
  isBetween 'A' 'Z' c || isBetween 'a' 'z' c || isAsciiDigit c

def privateKey : Regex :=
  .seq (exactly "-----BEGIN ") <|
    .seq (.many (.alt (exactly "RSA ") <| .alt (exactly "EC ") <| .alt (exactly "OPENSSH ") <|
      exactly "PGP ") 0 (some 1)) (exactly "PRIVATE KEY-----")

/-- `CREDENTIAL` -/
def credential : Regex :=
  .alt privateKey <|
    .alt (.seq (exactly "tskey-") <| .seq (.many (.set (isBetween 'a' 'z')) 1 none) <|
      .seq (exactly "-") (.many (.set isAsciiAlnum) 8 none)) <|
    .alt (.seq (exactly "xox") <| .seq (.set fun c => c ∈ ['b', 'a', 'p', 'r', 's']) <|
      .seq (exactly "-") (.many (.set fun c => isAsciiAlnum c || c = '-') 10 none)) <|
    .seq (exactly "ghp_") (.many (.set isAsciiAlnum) 20 none)

/-- The beginning of a reverse-DNS application identifier. -/
def reverseDns : Regex :=
  .seq .start <| .seq (.alt (caseless "com") <| .alt (caseless "io") <| .alt (caseless "net") <|
    .alt (caseless "org") <| .alt (caseless "md") <| caseless "app") dot

end Pattern

structure IPv4Address where
  a : Fin 256
  b : Fin 256
  c : Fin 256
  d : Fin 256
  deriving DecidableEq

namespace IPv4Address

def value (x : IPv4Address) : Nat := ((x.a * 256 + x.b) * 256 + x.c) * 256 + x.d

/-- `str(address)` -/
def str (x : IPv4Address) : List Char :=
  ['.'].intercalate ([x.a, x.b, x.c, x.d].map fun octet : Fin 256 => Nat.toDigits 10 octet.val)

structure Network where
  address : IPv4Address
  length : Nat

def isIn (x : IPv4Address) (network : Network) : Bool :=
  x.value / 2 ^ (32 - network.length) = network.address.value / 2 ^ (32 - network.length)

def privateNetworks : List Network :=
  [⟨⟨0, 0, 0, 0⟩, 8⟩, ⟨⟨10, 0, 0, 0⟩, 8⟩, ⟨⟨127, 0, 0, 0⟩, 8⟩, ⟨⟨169, 254, 0, 0⟩, 16⟩,
    ⟨⟨172, 16, 0, 0⟩, 12⟩, ⟨⟨192, 0, 0, 0⟩, 24⟩, ⟨⟨192, 0, 0, 170⟩, 31⟩, ⟨⟨192, 0, 2, 0⟩, 24⟩,
    ⟨⟨192, 168, 0, 0⟩, 16⟩, ⟨⟨198, 18, 0, 0⟩, 15⟩, ⟨⟨198, 51, 100, 0⟩, 24⟩,
    ⟨⟨203, 0, 113, 0⟩, 24⟩, ⟨⟨240, 0, 0, 0⟩, 4⟩, ⟨⟨255, 255, 255, 255⟩, 32⟩]

def privateExceptions : List Network := [⟨⟨192, 0, 0, 9⟩, 32⟩, ⟨⟨192, 0, 0, 10⟩, 32⟩]

def isPrivate (x : IPv4Address) : Bool :=
  privateNetworks.any x.isIn && privateExceptions.all fun network => !x.isIn network

def isLoopback (x : IPv4Address) : Bool := x.isIn ⟨⟨127, 0, 0, 0⟩, 8⟩

def isUnspecified (x : IPv4Address) : Bool := x = ⟨0, 0, 0, 0⟩

/-- `TAILSCALE_CGNAT` -/
def tailscaleCgnat : Network := ⟨⟨100, 64, 0, 0⟩, 10⟩

def parseOctet (s : List Char) : Option (Fin 256) :=
  let n := s.foldl (fun n c => n * 10 + (c.toNat - 0x30)) 0
  if s ≠ [] ∧ s.all isAsciiDigit ∧ s.length ≤ 3 ∧ ¬ (s ≠ ['0'] ∧ s.head? = some '0') ∧ n ≤ 255 then
    some (.ofNat _ n)
  else none

/-- `ipaddress.ip_address`, of a text without a colon. -/
def parse? (s : List Char) : Option IPv4Address :=
  match s.splitOn '.' with
  | [a, b, c, d] => do return ⟨← parseOctet a, ← parseOctet b, ← parseOctet c, ← parseOctet d⟩
  | _ => none

end IPv4Address

inductive Problem where
  | forbidden (phrase : String)
  | privateDns (name : List Char)
  | magicDns (name : List Char)
  | privateIpv6 (address : List Char)
  | credential (text : List Char)
  | cgnat (address : IPv4Address)
  | privateIpv4 (address : IPv4Address)
  deriving DecidableEq

namespace Problem

/-- `repr` of a text without quotes and backslashes. -/
def shown (text : List Char) : List Char := ['\''] ++ text ++ ['\'']

def label : Problem → String
  | .forbidden _ => "organization-specific phrase "
  | .privateDns _ => "private DNS name "
  | .magicDns _ => "tailnet MagicDNS name "
  | .privateIpv6 _ => "private IPv6 address "
  | .credential _ => "possible embedded credential "
  | .cgnat _ => "Tailscale CGNAT address "
  | .privateIpv4 _ => "private IPv4 address "

def detail : Problem → List Char
  | .forbidden phrase => shown phrase.toList
  | .privateDns name | .magicDns name => shown name
  | .privateIpv6 address => shown address
  | .credential text => shown (text.take 24) ++ "...".toList
  | .cgnat address | .privateIpv4 address => address.str

def message (problem : Problem) : String := .ofList (problem.label.toList ++ problem.detail)

end Problem

/-- A file of the repository: `text` is what reading it as UTF-8 gives. -/
structure TrackedFile where
  isFile : Bool
  name : String
  text : Option String
  isChecker : Bool

/-- `Path.suffix` -/
def pathSuffix (name : List Char) : List Char :=
  let extension := (name.reverse.takeWhile fun c => c ≠ '.').reverse
  if extension ≠ [] ∧ extension.length + 1 < name.length then '.' :: extension else []

namespace PublicSurface

def forbiddenPhrases : List String := ["tafy" ++ "labs", "tafy" ++ " labs", "batfang"]

def skipSuffixes : List String := [".png", ".jpg", ".jpeg", ".gif", ".ico", ".woff", ".woff2"]

def ipv4Problem (address : IPv4Address) : Option Problem :=
  if address.isIn IPv4Address.tailscaleCgnat then some (.cgnat address)
  else if address.isPrivate && address.a ≠ 0 && !address.isLoopback && !address.isUnspecified then
    some (.privateIpv4 address)
  else none

variable (lower : String → String) (isWord : Char → Bool)

def problems (text : String) : List Problem :=
  let chars := text.toList
  (forbiddenPhrases.filter fun phrase => phrase.toList <:+: (lower text).toList).map .forbidden ++
  (((Pattern.privateDns isWord).finditer chars).filter fun name =>
    (Pattern.reverseDns.matchAt ⟨[], name⟩).isNone).map .privateDns ++
  ((Pattern.tailnetDns isWord).finditer chars).map .magicDns ++
  (Pattern.privateIpv6.finditer chars).map .privateIpv6 ++
  (Pattern.credential.finditer chars).map .credential ++
  (Pattern.ipv4.finditer chars).filterMap fun s =>
    (IPv4Address.parse? s).bind ipv4Problem

def checkedText (file : TrackedFile) : Option String :=
  if !file.isFile then none
  else if lower (.ofList (pathSuffix file.name.toList)) ∈ skipSuffixes then none
  else match file.text with
    | none => none
    | some text =>
      if file.isChecker then none
      else if file.name = "test_public_surface.py" then none
      else some text

def findings (file : TrackedFile) : List String :=
  match checkedText lower file with
  | some text => (problems lower isWord text).map Problem.message
  | none => []

end PublicSurface

section Octets
variable {s : List Char} {n : Fin 256}

structure OctetText (s : List Char) : Prop where
  nonempty : 1 ≤ s.length
  short : s.length ≤ 3
  digits : s.all isAsciiDigit = true

theorem digit_cases {c : Char} (digit : isAsciiDigit c = true) :
    c ∈ ['0', '1', '2', '3', '4', '5', '6', '7', '8', '9'] := by
  have known : ((List.range 10).all fun i =>
      Char.ofNat (0x30 + i) ∈ ['0', '1', '2', '3', '4', '5', '6', '7', '8', '9']) = true := by
    decide
  simp only [isAsciiDigit, isBetween, Bool.and_eq_true, decide_eq_true_eq] at digit
  have low : 0x30 ≤ c.toNat := digit.1
  have high : c.toNat ≤ 0x39 := digit.2
  have own := of_decide_eq_true
    (List.all_eq_true.mp known (c.toNat - 0x30) (List.mem_range.mpr (by omega)))
  rwa [show 0x30 + (c.toNat - 0x30) = c.toNat by omega, Char.ofNat_toNat] at own

def digitChars : List Char := ['0', '1', '2', '3', '4', '5', '6', '7', '8', '9']

/-- What is read as an octet is how the octet is written. -/
def octetFits (s : List Char) : Bool :=
  match IPv4Address.parseOctet s with
  | some n => Nat.toDigits 10 n.val = s
  | none => true

theorem octets_fit : (digitChars.all fun a => octetFits [a] && digitChars.all fun b =>
    octetFits [a, b] && digitChars.all fun c => octetFits [a, b, c]) = true := by decide +kernel

theorem parseOctet_text (parsed : IPv4Address.parseOctet s = some n) : OctetText s := by
  unfold IPv4Address.parseOctet at parsed
  dsimp only at parsed
  split at parsed
  · rename_i fine
    obtain ⟨some', digits, short, -⟩ := fine
    exact ⟨List.length_pos_iff.mpr some', short, digits⟩
  · cases parsed

theorem parseOctet_digits (parsed : IPv4Address.parseOctet s = some n) :
    Nat.toDigits 10 n.val = s := by
  obtain ⟨nonempty, short, digits⟩ := parseOctet_text parsed
  have fits : octetFits s = true := by
    match s, nonempty, short, digits with
    | [a], _, _, digits =>
      have known := List.all_eq_true.mp octets_fit a (digit_cases (by simpa using digits))
      exact (Bool.and_eq_true_iff.mp known).1
    | [a, b], _, _, digits =>
      obtain ⟨first, second⟩ : isAsciiDigit a = true ∧
          isAsciiDigit b = true := by simpa using digits
      have known := (Bool.and_eq_true_iff.mp
        (List.all_eq_true.mp octets_fit a (digit_cases first))).2
      exact (Bool.and_eq_true_iff.mp (List.all_eq_true.mp known b (digit_cases second))).1
    | [a, b, c], _, _, digits =>
      obtain ⟨first, second, third⟩ : isAsciiDigit a = true ∧ isAsciiDigit b = true ∧
        isAsciiDigit c = true := by simpa using digits
      have known := (Bool.and_eq_true_iff.mp
        (List.all_eq_true.mp octets_fit a (digit_cases first))).2
      have known' := (Bool.and_eq_true_iff.mp
        (List.all_eq_true.mp known b (digit_cases second))).2
      exact List.all_eq_true.mp known' c (digit_cases third)
  rw [octetFits, parsed] at fits
  exact of_decide_eq_true fits

theorem parseOctet_toDigits (n : Fin 256) :
    IPv4Address.parseOctet (Nat.toDigits 10 n.val) = some n := by
  have all : ∀ n : Fin 256, IPv4Address.parseOctet (Nat.toDigits 10 n.val) = some n := by
    decide +kernel
  exact all n

theorem octetText_digits (n : Fin 256) : OctetText (Nat.toDigits 10 n.val) :=
  parseOctet_text (parseOctet_toDigits n)

theorem OctetText.undotted (octet : OctetText s) : '.' ∉ s := by
  intro member
  exact absurd (List.all_eq_true.mp octet.digits '.' member) (by decide)

end Octets

inductive Quad : List Char → Prop
  | mk {a b c d : List Char} (first : OctetText a) (second : OctetText b) (third : OctetText c)
      (fourth : OctetText d) : Quad (a ++ ['.'] ++ (b ++ ['.'] ++ (c ++ ['.'] ++ d)))

section Quads
variable {s w : List Char} {x : IPv4Address}

theorem joined_quad (a b c d : List Char) : ['.'].intercalate [a, b, c, d] =
    a ++ ['.'] ++ (b ++ ['.'] ++ (c ++ ['.'] ++ d)) := by
  simp [List.intercalate]

theorem str_quad (x : IPv4Address) : Quad x.str := by
  rw [IPv4Address.str]
  simp only [List.map_cons, List.map_nil, joined_quad]
  exact .mk (octetText_digits x.a) (octetText_digits x.b) (octetText_digits x.c)
    (octetText_digits x.d)

theorem Quad.chars (quad : Quad w) : ∀ c ∈ w, isAddressChar c = true := by
  obtain ⟨first, second, third, fourth⟩ := quad
  have digit : ∀ {s : List Char}, OctetText s → ∀ c ∈ s, isAddressChar c = true := by
    intro s octet c member
    simp [isAddressChar, List.all_eq_true.mp octet.digits c member]
  have dot : isAddressChar '.' = true := by decide
  intro c member
  simp only [List.mem_append, List.mem_singleton] at member
  rcases member with (member | rfl) | (member | rfl) | (member | rfl) | member
  · exact digit first c member
  · exact dot
  · exact digit second c member
  · exact dot
  · exact digit third c member
  · exact dot
  · exact digit fourth c member

theorem Quad.nonempty (quad : Quad w) : w ≠ [] := by
  obtain ⟨first, -, -, -⟩ := quad
  simp

theorem parse_str (x : IPv4Address) : IPv4Address.parse? x.str = some x := by
  have split : x.str.splitOn '.' =
      [x.a, x.b, x.c, x.d].map fun octet : Fin 256 => Nat.toDigits 10 octet.val := by
    refine List.splitOn_intercalate '.' ?_ (List.cons_ne_nil _ _)
    intro l member
    obtain ⟨n, -, rfl⟩ := List.mem_map.mp member
    exact (octetText_digits n).undotted
  rw [IPv4Address.parse?, split]
  simp only [List.map_cons, List.map_nil, parseOctet_toDigits]
  rfl

theorem str_of_parse (parsed : IPv4Address.parse? s = some x) : x.str = s := by
  unfold IPv4Address.parse? at parsed
  split at parsed
  · rename_i a b c d parts
    simp only [Option.bind_eq_bind, Option.bind_eq_some_iff, Option.pure_def,
      Option.some.injEq] at parsed
    obtain ⟨i, first, j, second, k, third, l, fourth, rfl⟩ := parsed
    have whole : ['.'].intercalate (s.splitOn '.') = s := List.intercalate_splitOn '.'
    rw [parts] at whole
    rw [IPv4Address.str, ← whole]
    simp only [List.map_cons, List.map_nil, parseOctet_digits first, parseOctet_digits second,
      parseOctet_digits third, parseOctet_digits fourth]
  · cases parsed

end Quads

section Matching
variable {p q t : Place} {w : List Char}

theorem mem_octet : q ∈ Pattern.octet.ways p ↔ ∃ w, OctetText w ∧ p.Reads w q := by
  rw [Pattern.octet, mem_many_set]
  constructor
  · rintro ⟨w, low, high, all, reads⟩
    exact ⟨w, ⟨low, high, all⟩, reads⟩
  · rintro ⟨w, ⟨low, high, all⟩, reads⟩
    exact ⟨w, low, high, all, reads⟩

theorem mem_dotted : q ∈ (Regex.seq Pattern.octet Pattern.dot).ways p ↔
    ∃ w, OctetText w ∧ p.Reads (w ++ ['.']) q := by
  rw [mem_seq]
  constructor
  · rintro ⟨s, first, rest⟩
    obtain ⟨w, octet, reads⟩ := mem_octet.mp first
    obtain ⟨c, dot, later⟩ := mem_set.mp rest
    rw [of_decide_eq_true dot] at later
    exact ⟨w, octet, reads.trans later⟩
  · rintro ⟨w, octet, reads⟩
    obtain ⟨s, first, rest⟩ := reads_split reads
    exact ⟨s, mem_octet.mpr ⟨w, octet, first⟩, mem_set.mpr ⟨'.', rfl, rest⟩⟩

theorem mem_ipv4 : q ∈ Pattern.ipv4.ways p ↔ (∀ c ∈ p.before.head?, isAddressChar c = false) ∧
    (∀ c ∈ q.after.head?, isAddressChar c = false) ∧ ∃ w, Quad w ∧ p.Reads w q := by
  rw [Pattern.ipv4, mem_seq]
  constructor
  · rintro ⟨s, behind, rest⟩
    obtain ⟨rfl, left⟩ := mem_notBehind.mp behind
    obtain ⟨t, dotted, rest⟩ := mem_seq.mp rest
    obtain ⟨u, last, ahead⟩ := mem_seq.mp rest
    obtain ⟨rfl, right⟩ := mem_notAhead.mp ahead
    obtain ⟨n, low, high, steps⟩ := mem_many.mp dotted
    obtain rfl : n = 3 := by omega
    obtain ⟨d, fourth, reads⟩ := mem_octet.mp last
    cases steps with
    | succ one _ steps =>
      cases steps with
      | succ two _ steps =>
        cases steps with
        | succ three _ steps =>
          cases steps
          obtain ⟨a, first, reads₁⟩ := mem_dotted.mp one
          obtain ⟨b, second, reads₂⟩ := mem_dotted.mp two
          obtain ⟨c, third, reads₃⟩ := mem_dotted.mp three
          exact ⟨left, right, _, .mk first second third fourth,
            reads₁.trans (reads₂.trans (reads₃.trans reads))⟩
  · rintro ⟨left, right, w, quad, reads⟩
    refine ⟨p, mem_notBehind.mpr ⟨rfl, left⟩, ?_⟩
    obtain ⟨first, second, third, fourth⟩ := quad
    obtain ⟨s₁, reads₁, reads⟩ := reads_split reads
    obtain ⟨s₂, reads₂, reads⟩ := reads_split reads
    obtain ⟨s₃, reads₃, reads⟩ := reads_split reads
    have forward : ∀ {s t : Place} {w : List Char}, s.Reads (w ++ ['.']) t →
        t.after.length < s.after.length := by
      intro s t w step
      rw [step.length, List.length_append, List.length_singleton]
      omega
    refine mem_seq.mpr ⟨s₃, mem_many.mpr ⟨3, Nat.le_refl 3, Nat.le_refl 3, ?_⟩, ?_⟩
    · exact .succ (mem_dotted.mpr ⟨_, first, reads₁⟩) (forward reads₁)
        (.succ (mem_dotted.mpr ⟨_, second, reads₂⟩) (forward reads₂)
          (.succ (mem_dotted.mpr ⟨_, third, reads₃⟩) (forward reads₃) (.zero s₃)))
    · exact mem_seq.mpr ⟨q, mem_octet.mpr ⟨_, fourth, reads⟩, mem_notAhead.mpr ⟨rfl, right⟩⟩

theorem ipv4_unique (first : q ∈ Pattern.ipv4.ways p)
    (second : t ∈ Pattern.ipv4.ways p) : q = t := by
  obtain ⟨-, right, w, quad, reads⟩ := mem_ipv4.mp first
  obtain ⟨-, right', w', quad', reads'⟩ := mem_ipv4.mp second
  have run : ∀ {q : Place} {w : List Char}, Quad w → p.Reads w q →
      (∀ c ∈ q.after.head?, isAddressChar c = false) → p.after.takeWhile isAddressChar = w := by
    intro q w quad reads right
    rw [reads.after, List.takeWhile_append_of_pos quad.chars]
    cases after : q.after with
    | nil => simp
    | cons c rest =>
      rw [after] at right
      have stop := right c rfl
      simp [stop]
  obtain rfl := (run quad reads right).symm.trans (run quad' reads' right')
  exact reads_unique reads reads'

theorem matchAt_ipv4 : Pattern.ipv4.matchAt p = some q ↔ q ∈ Pattern.ipv4.ways p := by
  constructor
  · exact fun found => (matchAt_forward found).1
  · intro member
    obtain ⟨-, -, w, quad, reads⟩ := mem_ipv4.mp member
    have forward : q.after.length < p.after.length := by
      have some' := List.length_pos_iff.mpr quad.nonempty
      rw [reads.length]
      omega
    cases found : Pattern.ipv4.matchAt p with
    | none =>
      have never := List.find?_eq_none.mp found q member
      exact absurd forward (by simpa using never)
    | some t => rw [ipv4_unique (matchAt_forward found).1 member]

theorem ipv4_reads (member : q ∈ Pattern.ipv4.ways p) : ∃ w, p.Reads w q := by
  obtain ⟨-, -, w, -, reads⟩ := mem_ipv4.mp member
  exact ⟨w, reads⟩

/-- Between characters that no address has. -/
def StandsIn (text w : List Char) : Prop :=
  ∃ l r, text = l ++ w ++ r ∧ (∀ c ∈ l.getLast?, isAddressChar c = false) ∧
    ∀ c ∈ r.head?, isAddressChar c = false

theorem mem_finditer_ipv4 {text : List Char} :
    w ∈ Pattern.ipv4.finditer text ↔ Quad w ∧ StandsIn text w := by
  rw [Regex.finditer, List.mem_map]
  constructor
  · rintro ⟨⟨s, t⟩, found, rfl⟩
    obtain ⟨matched, l, way⟩ := search_sound ipv4_reads found
    obtain ⟨left, right, w, quad, reads⟩ := mem_ipv4.mp (matchAt_ipv4.mp matched)
    rw [group_reads reads]
    refine ⟨quad, l, t.after, ?_, ?_, right⟩
    · have whole : text = l ++ s.after := way.after
      rw [whole, reads.after, List.append_assoc]
    · have before : s.before = l.reverse ++ [] := way.before
      rw [before, List.append_nil, List.head?_reverse] at left
      exact left
  · rintro ⟨quad, l, r, rfl, left, right⟩
    have way : Place.Reads ⟨[], l ++ w ++ r⟩ l ⟨l.reverse, w ++ r⟩ :=
      ⟨List.append_assoc l w r, (List.append_nil _).symm⟩
    have reads : Place.Reads ⟨l.reverse, w ++ r⟩ w ⟨w.reverse ++ l.reverse, r⟩ := ⟨rfl, rfl⟩
    have matched : Pattern.ipv4.matchAt ⟨l.reverse, w ++ r⟩ =
        some ⟨w.reverse ++ l.reverse, r⟩ := by
      refine matchAt_ipv4.mpr (mem_ipv4.mpr ⟨?_, right, w, quad, reads⟩)
      rw [List.head?_reverse]
      exact left
    refine ⟨_, search_complete ipv4_reads matched way (Nat.lt_succ_self _) ?_, group_reads reads⟩
    -- a match that went past the character before would have it
    intro s' t' v before some' found
    by_contra past
    obtain ⟨-, -, v', quad', reads'⟩ := mem_ipv4.mp (matchAt_ipv4.mp found)
    obtain ⟨u, rfl, -⟩ := reads_between before reads' (by omega)
    have ends : l.reverse = v.reverse ++ s'.before := before.before
    obtain ⟨c, last⟩ : ∃ c, v.getLast? = some c :=
      ⟨_, List.getLast?_eq_some_getLast some'⟩
    have own : l.getLast? = some c := by
      rw [← List.head?_reverse, ends, List.head?_append, List.head?_reverse, last]
      rfl
    have inside : c ∈ v ++ u := List.mem_append_left u (List.mem_of_getLast? last)
    have known := quad'.chars c inside
    rw [left c own] at known
    cases known

end Matching

section Messages
variable {problem : Problem} {a x : IPv4Address}

theorem message_head (problem : Problem) :
    problem.message.toList.take 14 = problem.label.toList.take 14 := by
  rw [Problem.message, String.toList_ofList, List.take_append_of_le_length]
  cases problem <;> (rw [Problem.label]; decide +kernel)

theorem str_injective : Function.Injective IPv4Address.str := by
  intro x y same
  have parsed := parse_str x
  rw [same, parse_str] at parsed
  exact (Option.some.inj parsed).symm

theorem message_address {shown : Problem} (address : shown = .cgnat a ∨ shown = .privateIpv4 a) :
    problem.message = shown.message ↔ problem = shown := by
  constructor
  · intro same
    have heads := congrArg (fun m => m.toList.take 14) same
    rw [message_head, message_head] at heads
    have texts := congrArg String.toList same
    rw [Problem.message, Problem.message, String.toList_ofList, String.toList_ofList] at texts
    rcases address with rfl | rfl
    all_goals
      cases problem <;> rw [Problem.label, Problem.label] at heads
      -- the two labels differ, but for the one case in which both are of an address
      all_goals first
        | exact absurd heads (by decide +kernel)
        | rw [str_injective (List.append_cancel_left texts)]
  · rintro rfl
    rfl

theorem isIn_iff {network : IPv4Address.Network} : x.isIn network = true ↔
    x.value / 2 ^ (32 - network.length) = network.address.value / 2 ^ (32 - network.length) := by
  rw [IPv4Address.isIn, decide_eq_true_eq]

def IPv4Address.isRfc1918 (x : IPv4Address) : Bool :=
  x.isIn ⟨⟨10, 0, 0, 0⟩, 8⟩ || x.isIn ⟨⟨172, 16, 0, 0⟩, 12⟩ || x.isIn ⟨⟨192, 168, 0, 0⟩, 16⟩

/-- An address that must not be published. -/
def IPv4Address.isSensitive (x : IPv4Address) : Bool :=
  x.isRfc1918 || x.isIn tailscaleCgnat

theorem rfc1918_cases (rfc : x.isRfc1918 = true) : x.value / 2 ^ 24 = 10 ∨
    x.value / 2 ^ 20 = 172 * 16 + 1 ∨ x.value / 2 ^ 16 = 192 * 256 + 168 := by
  simp only [IPv4Address.isRfc1918, Bool.or_eq_true, isIn_iff] at rfc
  rcases rfc with (rfc | rfc) | rfc
  · exact .inl (rfc.trans (by decide))
  · exact .inr (.inl (rfc.trans (by decide)))
  · exact .inr (.inr (rfc.trans (by decide)))

/-- Python counts the addresses of RFC 1918 as private, and none of them as something that the
check lets pass. -/
theorem rfc1918_private (rfc : x.isRfc1918 = true) : (x.isPrivate && x.a ≠ 0 && !x.isLoopback &&
    !x.isUnspecified) = true := by
  have cases' := rfc1918_cases rfc
  have listed : IPv4Address.privateNetworks.any x.isIn = true := by
    simp only [IPv4Address.isRfc1918, Bool.or_eq_true] at rfc
    rw [List.any_eq_true]
    rcases rfc with (rfc | rfc) | rfc
    · exact ⟨_, by simp [IPv4Address.privateNetworks], rfc⟩
    · exact ⟨_, by simp [IPv4Address.privateNetworks], rfc⟩
    · exact ⟨_, by simp [IPv4Address.privateNetworks], rfc⟩
  have exceptions : (IPv4Address.privateExceptions.all fun network => !x.isIn network) = true := by
    have other : x.value / 2 ^ 0 ≠ 3221225481 ∧ x.value / 2 ^ 0 ≠ 3221225482 := by omega
    simp only [IPv4Address.privateExceptions, List.all_cons, List.all_nil, Bool.and_true,
      Bool.and_eq_true, Bool.not_eq_true', ← Bool.not_eq_true, isIn_iff]
    exact other
  have loopback : x.isLoopback = false := by
    rw [IPv4Address.isLoopback, ← Bool.not_eq_true, isIn_iff]
    change ¬ x.value / 2 ^ 24 = 127
    omega
  have nonzero : x.value / 2 ^ 24 = x.a := by
    have := x.b.isLt
    have := x.c.isLt
    have := x.d.isLt
    unfold IPv4Address.value
    omega
  have first : x.a ≠ 0 := by
    intro zero
    rw [zero] at nonzero
    change x.value / 2 ^ 24 = 0 at nonzero
    omega
  have unspecified : x.isUnspecified = false := by
    rw [IPv4Address.isUnspecified, decide_eq_false_iff_not]
    rintro rfl
    exact first rfl
  rw [IPv4Address.isPrivate, listed, exceptions, loopback, unspecified]
  simpa using first

end Messages

namespace PublicSurface
variable (lower : String → String) (isWord : Char → Bool)

def Reports (found : List String) (a : IPv4Address) : Prop :=
  (Problem.cgnat a).message ∈ found ∨ (Problem.privateIpv4 a).message ∈ found

theorem ipv4Problem_cases {x : IPv4Address} {problem : Problem}
    (own : ipv4Problem x = some problem) : problem = .cgnat x ∨ problem = .privateIpv4 x := by
  unfold ipv4Problem at own
  split at own
  · exact .inl (Option.some.inj own).symm
  · split at own
    · exact .inr (Option.some.inj own).symm
    · cases own

theorem sensitive_problem {x : IPv4Address} (sensitive : x.isSensitive = true) :
    ∃ problem, ipv4Problem x = some problem := by
  by_cases shared : x.isIn IPv4Address.tailscaleCgnat = true
  · exact ⟨_, if_pos shared⟩
  · have rfc : x.isRfc1918 = true := by
      rw [IPv4Address.isSensitive, Bool.or_eq_true] at sensitive
      exact sensitive.resolve_right shared
    refine ⟨.privateIpv4 x, ?_⟩
    rw [ipv4Problem, if_neg shared, if_pos (rfc1918_private rfc)]

/-- Of the problems of a text, those with an address are the addresses it has standing alone. -/
theorem address_problem {text : String} {a : IPv4Address} {problem : Problem}
    (about : problem = .cgnat a ∨ problem = .privateIpv4 a) :
    problem ∈ problems lower isWord text ↔
      ipv4Problem a = some problem ∧ StandsIn text.toList a.str := by
  have tail : problem ∈ problems lower isWord text ↔
      problem ∈ (Pattern.ipv4.finditer text.toList).filterMap fun s =>
        (IPv4Address.parse? s).bind ipv4Problem := by
    rcases about with rfl | rfl <;> simp [problems]
  rw [tail, List.mem_filterMap]
  constructor
  · rintro ⟨s, found, own⟩
    obtain ⟨x, parsed, own⟩ := Option.bind_eq_some_iff.mp own
    have same : x = a := by
      rcases ipv4Problem_cases own with rfl | rfl <;> rcases about with h | h <;> cases h <;> rfl
    obtain rfl := same
    rw [str_of_parse parsed]
    exact ⟨own, (mem_finditer_ipv4.mp found).2⟩
  · rintro ⟨own, stands⟩
    exact ⟨a.str, mem_finditer_ipv4.mpr ⟨str_quad a, stands⟩, by rw [parse_str]; exact own⟩

theorem message_mem {found : List Problem} {problem : Problem}
    (unique : ∀ p : Problem, p.message = problem.message ↔ p = problem) :
    problem.message ∈ found.map Problem.message ↔ problem ∈ found := by
  rw [List.mem_map]
  constructor
  · rintro ⟨p, member, same⟩
    rwa [← (unique p).mp same]
  · exact fun member => ⟨problem, member, rfl⟩

/-- An address of RFC 1918 or of 100.64.0.0/10 is reported exactly if the file is one that is
checked and somewhere in it the address stands between characters that no address has: a dot
after it, be it at the end of a sentence, is such a character. -/
theorem address_reported_iff (file : TrackedFile) (a : IPv4Address)
    (sensitive : a.isSensitive = true) : Reports (findings lower isWord file) a ↔
      ∃ text, checkedText lower file = some text ∧ StandsIn text.toList a.str := by
  obtain ⟨own, known⟩ := sensitive_problem sensitive
  rw [Reports, findings]
  cases checked : checkedText lower file with
  | none => simp
  | some text =>
    dsimp only
    rw [message_mem fun p => message_address (.inl rfl),
      message_mem fun p => message_address (.inr rfl), address_problem lower isWord (.inl rfl),
      address_problem lower isWord (.inr rfl), known]
    simp only [Option.some.injEq, exists_eq_left']
    constructor
    · rintro (⟨-, stands⟩ | ⟨-, stands⟩) <;> exact stands
    · intro stands
      rcases ipv4Problem_cases known with rfl | rfl
      · exact .inl ⟨rfl, stands⟩
      · exact .inr ⟨rfl, stands⟩

end PublicSurface

namespace Sample

def asciiLower (text : String) : String := .ofList (text.toList.map Char.toLower)

def asciiWord (c : Char) : Bool := Pattern.isAsciiAlnum c || c = '_'

def note (text : String) : TrackedFile := ⟨true, "note.md", some text, false⟩

def gateway : IPv4Address := ⟨192, 168, 1, 1⟩

end Sample

open PublicSurface in
theorem address_reported_iff_inside :
    Reports (findings Sample.asciiLower Sample.asciiWord (Sample.note "gw 192.168.1.1, up"))
      Sample.gateway := by
  have checked : checkedText Sample.asciiLower (Sample.note "gw 192.168.1.1, up") =
      some "gw 192.168.1.1, up" := by decide +kernel
  have apart : isAddressChar ' ' = false ∧ isAddressChar ',' = false := by decide
  refine (address_reported_iff _ _ (Sample.note "gw 192.168.1.1, up") Sample.gateway
    (by decide +kernel)).mpr ⟨_, checked, ['g', 'w', ' '], [',', ' ', 'u', 'p'], ?_, ?_, ?_⟩
  · decide +kernel
  · rintro c ⟨⟩
    exact apart.1
  · rintro c ⟨⟩
    exact apart.2

open PublicSurface in
/-- The address at the end of a sentence is not reported. -/
theorem sentence_end_missed : "gw 192.168.1.1.".toList =
      "gw ".toList ++ Sample.gateway.str ++ ['.'] ∧ Sample.gateway.isRfc1918 = true ∧
    ¬ Reports (findings Sample.asciiLower Sample.asciiWord (Sample.note "gw 192.168.1.1."))
      Sample.gateway := by
  have nothing : findings Sample.asciiLower Sample.asciiWord (Sample.note "gw 192.168.1.1.") =
      [] := by
    decide +kernel
  refine ⟨by decide +kernel, by decide +kernel, ?_⟩
  rw [nothing]
  rintro (member | member) <;> cases member

end Deckhand
