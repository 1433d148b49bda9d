import Hostlink.Proofs.Text.Skip
import Hostlink.Target

/-!
# The address that is dialled

A machine is told by a host name or by an IP address, and is dialled at that and a port, with a colon
between them. `HostPort` says what such a text denotes. The long addresses, those of IPv6, have colons
of their own; so there they stand in brackets, and the colon before the port is the only one outside
of them.

A target writes its address as it is. That is right for names and for the short addresses of IPv4, and
the text denotes the target then and nothing else. A long address is written without brackets, and the
text denotes nothing, `socketAddress_denotes`. The same text stands in the endpoint, where a URL has
the machine that it is for.
-/

namespace Hostlink.Address

open Text

/-! ## Addresses -/

/-- A digit of a hexadecimal number. -/
def isHex (c : Char) : Bool := c.isDigit || ('a' ≤ c && c ≤ 'f') || ('A' ≤ c && c ≤ 'F')

/-- A character that stands for itself in a host name. -/
def isNameChar (c : Char) : Bool :=
  c.isAlphanum || ['-', '.', '_', '~', '!', '$', '&', '\'', '(', ')', '*', '+', ',', ';', '='].contains c

/-- Characters of a host name, where an octet may also be told by its number. -/
inductive NameChars : List Char → Prop
  | nil : NameChars []
  | char {c : Char} {cs : List Char} (plain : isNameChar c = true) (more : NameChars cs) :
    NameChars (c :: cs)
  | octet {high low : Char} {cs : List Char} (first : isHex high = true) (second : isHex low = true)
      (more : NameChars cs) : NameChars ('%' :: high :: low :: cs)

/-- **A host name.** -/
structure IsName (text : List Char) : Prop where
  inhabited : text ≠ []
  chars : NameChars text

/-- **A short address**: four numbers of eight bits, with dots between them. -/
inductive IsIPv4 : List Char → Prop
  | intro (a b c d : UInt8) :
    IsIPv4 (Nat.toDigits 10 a.toNat ++ '.' :: (Nat.toDigits 10 b.toNat ++ '.' ::
      (Nat.toDigits 10 c.toNat ++ '.' :: Nat.toDigits 10 d.toNat)))

/-- A number of sixteen bits in a long address. -/
structure IsGroup (text : List Char) : Prop where
  inhabited : text ≠ []
  short : text.length ≤ 4
  digits : ∀ c ∈ text, isHex c = true

/-- **Groups of a long address**, counted, with colons between them. The last two may be written as a
short address, where that is allowed. -/
inductive Groups (dotted : Bool) : Nat → List Char → Prop
  | one {group : List Char} (number : IsGroup group) : Groups dotted 1 group
  | two {quad : List Char} (allowed : dotted = true) (numbers : IsIPv4 quad) : Groups dotted 2 quad
  | more {count : Nat} {group rest : List Char} (number : IsGroup group)
      (behind : Groups dotted count rest) : Groups dotted (count + 1) (group ++ ':' :: rest)

/-- The groups on one side of a gap, if there are any. -/
inductive Side (dotted : Bool) : Nat → List Char → Prop
  | none : Side dotted 0 []
  | some {count : Nat} {text : List Char} (groups : Groups dotted count text) : Side dotted count text

/-- **A long address**: eight groups, or fewer with a gap that stands for the rest, which are zero. -/
inductive IsIPv6 : List Char → Prop
  | whole {text : List Char} (groups : Groups true 8 text) : IsIPv6 text
  | gap {before behind : Nat} {front back : List Char} (left : Side false before front)
      (right : Side true behind back) (room : before + behind ≤ 7) :
    IsIPv6 (front ++ ':' :: ':' :: back)

/-- **What tells a machine.** -/
inductive IsAddress (text : List Char) : Prop
  | name (h : IsName text)
  | short (h : IsIPv4 text)
  | long (h : IsIPv6 text)

/-! ## Texts with a port -/

/-- How an address is written before a port. -/
inductive Written (address : String) : List Char → Prop
  | name (h : IsName address.toList) : Written address address.toList
  | short (h : IsIPv4 address.toList) : Written address address.toList
  | long (h : IsIPv6 address.toList) : Written address ('[' :: (address.toList ++ [']']))

/-- **A text that denotes a port of a machine.** -/
inductive HostPort (address : String) : Nat → List Char → Prop
  | intro {host digits : List Char} (written : Written address host) (inhabited : digits ≠ [])
      (decimal : ∀ c ∈ digits, c.isDigit = true) :
    HostPort address (Nat.ofDigitChars 10 digits 0) (host ++ ':' :: digits)

/-- The part of a URL that says which machine it is for: from behind the scheme as far as the next
slash. -/
def authority? (url : String) : Option String := do
  let (_, rest) ← cut? [':', '/', '/'] url.toList
  let (authority, _) ← cut? ['/'] rest
  return String.ofList authority

/-! ## Which characters stand in an address -/

/-- The characters that stand around addresses. -/
def marks : List Char := [':', '[', '/']

/-- A kind of characters that none of the marks is of. -/
theorem not_mark_of {p : Char → Bool} (apart : marks.all (fun c => !p c) = true) {c : Char}
    (kind : p c = true) : c ∉ marks := fun mark => by
  have other := List.all_eq_true.mp apart c mark
  rw [kind] at other
  cases other

theorem not_mark_of_isHex {c : Char} (hex : isHex c = true) : c ∉ marks :=
  not_mark_of (by decide) hex

theorem not_mark_of_isNameChar {c : Char} (plain : isNameChar c = true) : c ∉ marks :=
  not_mark_of (by decide) plain

theorem not_mark_of_isDigit {c : Char} (digit : c.isDigit = true) : c ∉ marks :=
  not_mark_of (by decide) digit

theorem not_mark_of_mem_toDigits {n : Nat} {c : Char} (among : c ∈ Nat.toDigits 10 n) : c ∉ marks :=
  not_mark_of_isDigit (Nat.isDigit_of_mem_toDigits (by decide) (by decide) among)

/-- None of the marks stands in a host name. -/
theorem NameChars.not_mark {text : List Char} (h : NameChars text) : ∀ c ∈ text, c ∉ marks := by
  induction h with
  | nil => exact List.forall_mem_nil _
  | char plain more ih => exact List.forall_mem_cons.mpr ⟨not_mark_of_isNameChar plain, ih⟩
  | octet first second more ih =>
    simp only [List.forall_mem_cons]
    exact ⟨by decide, not_mark_of_isHex first, not_mark_of_isHex second, ih⟩

/-- None of the marks stands in a short address. -/
theorem IsIPv4.not_mark {text : List Char} (h : IsIPv4 text) : ∀ c ∈ text, c ∉ marks := by
  obtain ⟨a, b, c, d⟩ := h
  simp only [List.forall_mem_append, List.forall_mem_cons]
  have dot : '.' ∉ marks := by decide
  have number (n : Nat) : ∀ c ∈ Nat.toDigits 10 n, c ∉ marks := fun _ => not_mark_of_mem_toDigits
  exact ⟨number _, dot, number _, dot, number _, dot, number _⟩

/-- The only mark in the groups of a long address is the colon. -/
theorem Groups.mark_eq {dotted : Bool} {count : Nat} {text : List Char} (h : Groups dotted count text) :
    ∀ c ∈ text, c ∈ marks → c = ':' := by
  induction h with
  | one number => exact fun c among mark => absurd mark (not_mark_of_isHex (number.digits c among))
  | two allowed numbers => exact fun c among mark => absurd mark (numbers.not_mark c among)
  | more number behind ih =>
    rw [List.forall_mem_append, List.forall_mem_cons]
    exact ⟨fun c among mark => absurd mark (not_mark_of_isHex (number.digits c among)),
      fun _ => rfl, ih⟩

theorem Side.mark_eq {dotted : Bool} {count : Nat} {text : List Char} (h : Side dotted count text) :
    ∀ c ∈ text, c ∈ marks → c = ':' := by
  cases h with
  | none => exact List.forall_mem_nil _
  | some groups => exact groups.mark_eq

/-- The only mark in a long address is the colon. -/
theorem IsIPv6.mark_eq {text : List Char} (h : IsIPv6 text) : ∀ c ∈ text, c ∈ marks → c = ':' := by
  cases h with
  | whole groups => exact groups.mark_eq
  | gap left right room =>
    rw [List.forall_mem_append, List.forall_mem_cons, List.forall_mem_cons]
    exact ⟨left.mark_eq, fun _ => rfl, fun _ => rfl, right.mark_eq⟩

/-- A long address has a colon in it. -/
theorem IsIPv6.colon_mem {text : List Char} (h : IsIPv6 text) : ':' ∈ text := by
  cases h with
  | whole groups =>
    cases groups with
    | more number behind => exact List.mem_append_right _ List.mem_cons_self
  | gap left right room => exact List.mem_append_right _ List.mem_cons_self

/-- A text without marks is no long address. -/
theorem not_isIPv6_of_not_mark {text : List Char} (plain : ∀ c ∈ text, c ∉ marks) : ¬ IsIPv6 text :=
  fun long => plain ':' long.colon_mem (by decide)

theorem IsAddress.mark_eq {text : List Char} (h : IsAddress text) : ∀ c ∈ text, c ∈ marks → c = ':' := by
  cases h with
  | name h => exact fun c among mark => absurd mark (h.chars.not_mark c among)
  | short h => exact fun c among mark => absurd mark (h.not_mark c among)
  | long h => exact h.mark_eq

/-! ## Reading -/

theorem part_eq_nil {part back back' : List Char} (plain : ':' ∉ back)
    (same : ':' :: back = part ++ ':' :: back') : part = [] := by
  cases part with
  | nil => rfl
  | cons c part =>
    have behind : back = part ++ ':' :: back' := (List.cons.inj same).2
    exact absurd (behind ▸ List.mem_append_right part List.mem_cons_self) plain

/-- **A text with a port is divided at its last colon.** -/
theorem eq_of_last_colon {front front' back back' : List Char} (plain : ':' ∉ back)
    (plain' : ':' ∉ back') (same : front ++ ':' :: back = front' ++ ':' :: back') :
    front = front' ∧ back = back' := by
  rcases List.append_eq_append_iff.mp same with ⟨part, rfl, rest⟩ | ⟨part, rfl, rest⟩
  · obtain rfl := part_eq_nil plain rest
    exact ⟨(List.append_nil front).symm, (List.cons.inj rest).2⟩
  · obtain rfl := part_eq_nil plain' rest
    exact ⟨List.append_nil front', (List.cons.inj rest).2.symm⟩

/-- Digits have no colon. -/
theorem colon_not_mem {digits : List Char} (decimal : ∀ c ∈ digits, c.isDigit = true) :
    ':' ∉ digits := fun among => by cases decimal ':' among

/-- **What an address with a port behind it denotes**: the address and the port, unless it is a long
one. -/
theorem hostPort_iff {address : String} (known : IsAddress address.toList) {port : Nat} {a : String}
    {p : Nat} :
    HostPort a p (address.toList ++ ':' :: Nat.toDigits 10 port) ↔
      ¬ IsIPv6 address.toList ∧ a = address ∧ p = port := by
  have decimal : ∀ c ∈ Nat.toDigits 10 port, c.isDigit = true := fun c =>
    Nat.isDigit_of_mem_toDigits (by decide) (by decide)
  constructor
  · intro denotes
    generalize text : address.toList ++ ':' :: Nat.toDigits 10 port = whole at denotes
    obtain ⟨written, inhabited, decimal'⟩ := denotes
    obtain ⟨host, rfl⟩ := eq_of_last_colon (colon_not_mem decimal) (colon_not_mem decimal') text
    have number : Nat.ofDigitChars 10 (Nat.toDigits 10 port) 0 = port := Nat.ofDigitChars_ten_toDigits
    cases written with
    | name h =>
      obtain rfl := String.toList_inj.mp host
      exact ⟨not_isIPv6_of_not_mark h.chars.not_mark, rfl, number⟩
    | short h =>
      obtain rfl := String.toList_inj.mp host
      exact ⟨not_isIPv6_of_not_mark h.not_mark, rfl, number⟩
    | long h =>
      have bracket : '[' ∈ address.toList := host ▸ List.mem_cons_self
      cases known.mark_eq '[' bracket (by decide)
  · rintro ⟨short, rfl, rfl⟩
    have written : Written a a.toList := by
      cases known with
      | name h => exact .name h
      | short h => exact .short h
      | long h => exact absurd h short
    have denotes := HostPort.intro written Nat.toDigits_ne_nil decimal
    rwa [Nat.ofDigitChars_ten_toDigits] at denotes

/-- In brackets a long address can be read. -/
theorem hostPort_brackets {address : String} (long : IsIPv6 address.toList) (port : Nat) :
    HostPort address port (('[' :: (address.toList ++ [']'])) ++ ':' :: Nat.toDigits 10 port) := by
  have inhabited : Nat.toDigits 10 port ≠ [] := Nat.toDigits_ne_nil
  have denotes := HostPort.intro (.long long) inhabited fun c =>
    Nat.isDigit_of_mem_toDigits (by decide) (by decide)
  rwa [Nat.ofDigitChars_ten_toDigits] at denotes

/-! ## Targets -/

theorem toList_socketAddress (t : Target) :
    t.socketAddress.toList = t.address.toList ++ ':' :: Nat.toDigits 10 t.effectivePort := by
  show (t.address ++ ":" ++ t.effectivePort.repr).toList = _
  rw [String.toList_append, String.toList_append, Nat.toList_repr, List.append_assoc]
  rfl

/-- The scheme of a target's endpoint. -/
def scheme (t : Target) : String := if t.winRm.https then "https" else "http"

theorem toList_endpoint (t : Target) :
    t.endpoint.toList = (scheme t).toList ++ ([':', '/', '/'] ++ (t.socketAddress.toList ++
      (['/'] ++ "wsman".toList))) := by
  show (scheme t ++ "://" ++ t.address ++ ":" ++ t.effectivePort.repr ++ "/wsman").toList = _
  simp only [toList_socketAddress, String.toList_append, Nat.toList_repr, List.append_assoc]
  rfl

/-- The machine that the endpoint is for is the one that is dialled. -/
theorem authority?_endpoint {t : Target} (known : IsAddress t.address.toList) :
    authority? t.endpoint = some t.socketAddress := by
  have before : Skips [':', '/', '/'] (scheme t).toList ([':', '/', '/'] ++ (t.socketAddress.toList ++
      (['/'] ++ "wsman".toList))) := by
    refine skips_of_clear ?_ _
    unfold scheme
    split
    · decide
    · decide
  have within : '/' ∉ t.socketAddress.toList := by
    rw [toList_socketAddress, List.mem_append, List.mem_cons]
    rintro (among | colon | among)
    · cases known.mark_eq '/' among (by decide)
    · cases colon
    · exact not_mark_of_mem_toDigits among (by decide)
  rw [authority?, toList_endpoint, cut?_skip_mark (List.cons_ne_nil _ _) before, Option.bind_eq_bind,
    Option.bind_some]
  dsimp only
  rw [cut?_skip_mark (List.cons_ne_nil _ _) (skips_of_head within _ _)]
  exact congrArg some String.ofList_toList

/-- **What a target is dialled at.** The endpoint names the same machine as the text that is dialled,
and that text denotes the target's address and its port and nothing else, if the address is a host name
or a short address. If it is a long address, the text denotes nothing. -/
theorem socketAddress_denotes {t : Target} (known : IsAddress t.address.toList) :
    authority? t.endpoint = some t.socketAddress ∧
    ∀ address port, HostPort address port t.socketAddress.toList ↔
      ¬ IsIPv6 t.address.toList ∧ address = t.address ∧ port = t.effectivePort := by
  refine ⟨authority?_endpoint known, fun address port => ?_⟩
  rw [toList_socketAddress]
  exact hostPort_iff known

/-- A target with a short address and a port of its own. -/
def shortTarget : Target := { address := "10.0.0.7", port := some 2222, transport := .ssh }

theorem socketAddress_denotes_short :
    IsAddress "10.0.0.7".toList ∧ authority? shortTarget.endpoint = some "10.0.0.7:2222" ∧
    ∀ address port, HostPort address port "10.0.0.7:2222".toList ↔
      address = "10.0.0.7" ∧ port = 2222 := by
  have short : IsIPv4 "10.0.0.7".toList := .intro 10 0 0 7
  have text : shortTarget.socketAddress = "10.0.0.7:2222" := by decide +kernel
  obtain ⟨endpoint, denotes⟩ := socketAddress_denotes (t := shortTarget) (.short short)
  rw [text] at endpoint denotes
  refine ⟨.short short, endpoint, fun address port => (denotes address port).trans ?_⟩
  exact and_iff_right (not_isIPv6_of_not_mark short.not_mark)

/-- A target with a long address. -/
def longTarget : Target := { address := "fe80::1", transport := .winRm }

theorem isGroup_of_all {text : List Char} (inhabited : text ≠ []) (short : text.length ≤ 4)
    (digits : text.all isHex = true) : IsGroup text :=
  ⟨inhabited, short, List.all_eq_true.mp digits⟩

theorem isIPv6_longTarget : IsIPv6 longTarget.address.toList := by
  have front : IsGroup "fe80".toList := isGroup_of_all (by decide) (by decide) (by decide)
  have back : IsGroup "1".toList := isGroup_of_all (by decide) (by decide) (by decide)
  exact .gap (.some (.one front)) (.some (.one back)) (by decide)

/-- **A long address is dialled at a text that denotes nothing**, where with brackets it would denote
the target. -/
theorem long_address_undenoted :
    IsIPv6 longTarget.address.toList ∧ longTarget.endpoint = "https://fe80::1:5986/wsman" ∧
    longTarget.socketAddress = "fe80::1:5986" ∧
    (∀ address port, ¬ HostPort address port "fe80::1:5986".toList) ∧
    HostPort "fe80::1" 5986 "[fe80::1]:5986".toList := by
  have texts : longTarget.endpoint = "https://fe80::1:5986/wsman" ∧
      longTarget.socketAddress = "fe80::1:5986" := by decide +kernel
  refine ⟨isIPv6_longTarget, texts.1, texts.2, fun address port denotes => ?_, ?_⟩
  · rw [← texts.2, toList_socketAddress] at denotes
    exact ((hostPort_iff (.long isIPv6_longTarget)).mp denotes).1 isIPv6_longTarget
  · exact hostPort_brackets isIPv6_longTarget 5986

end Hostlink.Address
