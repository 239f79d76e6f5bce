import Rflow.Foundation.Numerals

/-!
# Internet addresses in text

How addresses are printed, and how addresses and socket addresses are read.  An address that is
printed is read back, whatever stops the reader behind it.  A version 4 address is read only as it
is printed; a version 6 address has many texts, one of which is the printed one.
-/

namespace Foundation
namespace Addresses

open Numerals

structure Ipv4Addr where
  a : Fin 256
  b : Fin 256
  c : Fin 256
  d : Fin 256
  deriving DecidableEq

structure Ipv6Addr where
  segments : List (Fin 65536)
  length_eq : segments.length = 8
  deriving DecidableEq

inductive IpAddr where
  | v4 (address : Ipv4Addr)
  | v6 (address : Ipv6Addr)
  deriving DecidableEq

/-- An address and a port.  The scope of a version 6 address is read but not kept. -/
structure SocketAddr where
  ip : IpAddr
  port : Fin 65536
  deriving DecidableEq

/-! ## Printing -/

def Ipv4Addr.display (address : Ipv4Addr) : List Char :=
  Nat.toDigits 10 address.a ++ '.' :: (Nat.toDigits 10 address.b ++ '.' ::
    (Nat.toDigits 10 address.c ++ '.' :: Nat.toDigits 10 address.d))

/-- The two segments that stand for a version 4 address. -/
def Ipv4Addr.segments (address : Ipv4Addr) : List (Fin 65536) :=
  [⟨address.a * 256 + address.b, by omega⟩, ⟨address.c * 256 + address.d, by omega⟩]

/-- The version 4 address that two segments stand for. -/
def Ipv4Addr.ofSegments (high low : Fin 65536) : Ipv4Addr where
  a := ⟨high / 256, by omega⟩
  b := ⟨high % 256, by omega⟩
  c := ⟨low / 256, by omega⟩
  d := ⟨low % 256, by omega⟩

/-- The version 4 address that is mapped to a version 6 address. -/
def Ipv6Addr.toIpv4Mapped (address : Ipv6Addr) : Option Ipv4Addr :=
  match address.segments with
  | [0, 0, 0, 0, 0, 65535, high, low] => some (.ofSegments high low)
  | _ => none

/-- A run of segments. -/
structure Span where
  start : Nat
  length : Nat
  deriving DecidableEq

/-- The first longest run of zeroes, where `longest` is the one so far and `current` the one that
ends at the index. -/
def scanZeroes (longest current : Span) (index : Nat) : List (Fin 65536) → Span
  | [] => longest
  | segment :: rest =>
      if segment = 0 then
        let current : Span :=
          { start := if current.length = 0 then index else current.start
            length := current.length + 1 }
        scanZeroes (if longest.length < current.length then current else longest) current
          (index + 1) rest
      else
        scanZeroes longest ⟨0, 0⟩ (index + 1) rest

def longestZeroes (segments : List (Fin 65536)) : Span := scanZeroes ⟨0, 0⟩ ⟨0, 0⟩ 0 segments

/-- Segments with a colon before each. -/
def printTail (segments : List (Fin 65536)) : List Char :=
  segments.flatMap fun segment => ':' :: Nat.toDigits 16 segment

/-- Segments with colons between them. -/
def printSegments : List (Fin 65536) → List Char
  | [] => []
  | first :: tail => Nat.toDigits 16 first ++ printTail tail

def Ipv6Addr.display (address : Ipv6Addr) : List Char :=
  match address.toIpv4Mapped with
  | some ipv4 => [':', ':', 'f', 'f', 'f', 'f', ':'] ++ ipv4.display
  | none =>
      let zeroes := longestZeroes address.segments
      if 1 < zeroes.length then
        printSegments (address.segments.take zeroes.start) ++ [':', ':'] ++
          printSegments (address.segments.drop (zeroes.start + zeroes.length))
      else
        printSegments address.segments

def IpAddr.display : IpAddr → List Char
  | v4 address => address.display
  | v6 address => address.display

/-! ## Reading -/

def readGiven (expected : Char) : List Char → Option (List Char)
  | [] => none
  | character :: rest => if character = expected then some rest else none

/-- Read an item that follows a colon unless it is the first one. -/
def readSeparated {α : Type} (first : Bool) (read : List Char → Option α) (text : List Char) :
    Option α :=
  if first then read text else (readGiven ':' text).bind read

def readOctet : List Char → Option (Fin 256 × List Char) := readNumber 10 (some 3) false 256

def readIpv4 (text : List Char) : Option (Ipv4Addr × List Char) := do
  let (a, text) ← readOctet text
  let (b, text) ← (readGiven '.' text).bind readOctet
  let (c, text) ← (readGiven '.' text).bind readOctet
  let (d, text) ← (readGiven '.' text).bind readOctet
  pure ({ a, b, c, d }, text)

def readSegment : List Char → Option (Fin 65536 × List Char) := readNumber 16 (some 4) true 65536

/-- Read up to a limit of groups with colons between them, the last two of which can be written as a
version 4 address; the flag says that they are. -/
def readGroups (first : Bool) : (limit : Nat) → List Char → List (Fin 65536) × Bool × List Char
  | 0, text => ([], false, text)
  | limit + 1, text =>
      match if 1 ≤ limit then readSeparated first readIpv4 text else none with
      | some (address, rest) => (address.segments, true, rest)
      | none =>
          match readSeparated first readSegment text with
          | some (group, rest) =>
              let (groups, ipv4, rest) := readGroups false limit rest
              (group :: groups, ipv4, rest)
          | none => ([], false, text)

theorem readGroups_length_le (first : Bool) (limit : Nat) (text : List Char) :
    (readGroups first limit text).1.length ≤ limit := by
  induction limit generalizing first text with
  | zero => simp [readGroups]
  | succ limit induction =>
      rw [readGroups]
      split
      · rename_i address rest found
        have room : 1 ≤ limit := by
          by_contra none
          simp [none] at found
        simpa [Ipv4Addr.segments] using room
      · split
        · simpa using induction _ _
        · simp

/-- The address whose first and last segments are given, with zeroes between them. -/
def Ipv6Addr.filled (head tail : List (Fin 65536)) (fits : head.length + tail.length ≤ 8) :
    Ipv6Addr where
  segments := head ++ List.replicate (8 - (head.length + tail.length)) 0 ++ tail
  length_eq := by
    simp only [List.length_append, List.length_replicate]
    omega

def readIpv6 (text : List Char) : Option (Ipv6Addr × List Char) :=
  let head := readGroups true 8 text
  if full : head.1.length = 8 then
    some (⟨head.1, full⟩, head.2.2)
  else if head.2.1 then
    none
  else do
    let text ← (readGiven ':' head.2.2).bind (readGiven ':')
    let tail := readGroups true (8 - (head.1.length + 1)) text
    have fits : head.1.length + tail.1.length ≤ 8 := by
      have headFits : head.1.length ≤ 8 := readGroups_length_le ..
      have tailFits : tail.1.length ≤ 8 - (head.1.length + 1) := readGroups_length_le ..
      omega
    pure (.filled head.1 tail.1 fits, tail.2.2)

def readIpAddr (text : List Char) : Option (IpAddr × List Char) :=
  match readIpv4 text with
  | some (address, rest) => some (.v4 address, rest)
  | none => (readIpv6 text).map fun (address, rest) => (.v6 address, rest)

def readPort (text : List Char) : Option (Fin 65536 × List Char) :=
  (readGiven ':' text).bind (readNumber 10 none true 65536)

def readScopeId (text : List Char) : Option (Fin 4294967296 × List Char) :=
  (readGiven '%' text).bind (readNumber 10 none true 4294967296)

def readSocketAddrV4 (text : List Char) : Option (SocketAddr × List Char) := do
  let (ip, text) ← readIpv4 text
  let (port, text) ← readPort text
  pure ({ ip := .v4 ip, port }, text)

def readSocketAddrV6 (text : List Char) : Option (SocketAddr × List Char) := do
  let text ← readGiven '[' text
  let (ip, text) ← readIpv6 text
  let text := match readScopeId text with
    | some (_, rest) => rest
    | none => text
  let text ← readGiven ']' text
  let (port, text) ← readPort text
  pure ({ ip := .v6 ip, port }, text)

def readSocketAddr (text : List Char) : Option (SocketAddr × List Char) :=
  (readSocketAddrV4 text).or (readSocketAddrV6 text)

/-- What a reader makes of a text that it reads to the end. -/
def parseWith {α : Type} (read : List Char → Option (α × List Char)) (text : List Char) :
    Option α :=
  match read text with
  | some (value, []) => some value
  | _ => none

def parseIpAddr : List Char → Option IpAddr := parseWith readIpAddr

def parseSocketAddr : List Char → Option SocketAddr := parseWith readSocketAddr

/-! ## Version 4 addresses -/

variable {text rest : List Char}

@[simp]
theorem readGiven_cons {character : Char} : readGiven character (character :: rest) = some rest :=
  if_pos rfl

theorem readGiven_eq_some {expected : Char} :
    readGiven expected text = some rest ↔ text = expected :: rest := by
  cases text with
  | nil => simp [readGiven]
  | cons character tail => simp [readGiven]

theorem readOctet_toDigits (octet : Fin 256) (ends : Ends 10 rest) :
    readOctet (Nat.toDigits 10 octet ++ rest) = some (octet, rest) :=
  readNumber_toDigits (by decide) (by decide) octet (by simp; omega) ends

theorem readIpv4_display (address : Ipv4Addr) (ends : Ends 10 rest) :
    readIpv4 (address.display ++ rest) = some (address, rest) := by
  have dotted (text : List Char) : Ends 10 ('.' :: text) := ends_cons.mpr (by decide)
  simp only [readIpv4, Ipv4Addr.display, List.append_assoc, List.cons_append,
    readOctet_toDigits _ (dotted _), readOctet_toDigits _ ends, readGiven_cons, Option.bind_some,
    Option.bind_eq_bind, Option.pure_def]

/-- A version 4 address is read only where it stands as it is printed. -/
theorem readIpv4_canonical {address : Ipv4Addr} (found : readIpv4 text = some (address, rest)) :
    text = address.display ++ rest := by
  simp only [readIpv4, Option.bind_eq_bind, Option.bind_eq_some_iff, Option.pure_def,
    Option.some.injEq, Prod.mk.injEq, Prod.exists, readGiven_eq_some] at found
  obtain ⟨a, _, readA, b, _, ⟨_, rfl, readB⟩, c, _, ⟨_, rfl, readC⟩, d, _, ⟨_, rfl, readD⟩, rfl,
    rfl⟩ := found
  rw [readNumber_canonical readA, readNumber_canonical readB, readNumber_canonical readC,
    readNumber_canonical readD]
  simp [Ipv4Addr.display]

theorem readIpv4_of_ends (ends : Ends 10 text) : readIpv4 text = none := by
  have nothing : readOctet text = none := readNumber_of_ends ends
  rw [readIpv4, nothing]
  rfl

/-- Hexadecimal digits that no dot follows are not the start of a version 4 address. -/
theorem readIpv4_of_hexadecimal (group : Fin 65536) (ends : Ends 16 rest)
    (undotted : rest.head? ≠ some '.') : readIpv4 (Nat.toDigits 16 group ++ rest) = none := by
  by_contra found
  obtain ⟨⟨address, tail⟩, found⟩ := Option.ne_none_iff_exists'.mp found
  have canonical := readIpv4_canonical found
  have decimals : ∀ character ∈ Nat.toDigits 10 address.a, isDigit 16 character = true :=
    fun _ member => isDigit_mono (by decide)
      (isDigit_of_mem_toDigits (by decide) (by decide) member)
  have hexadecimals : ∀ character ∈ Nat.toDigits 16 group, isDigit 16 character = true :=
    fun _ => isDigit_of_mem_toDigits (by decide) (by decide)
  -- Both sides start with the same digits, and a dot follows on one side only.
  have left := (takeWhile_digits hexadecimals ends).2
  rw [canonical, Ipv4Addr.display, List.append_assoc, List.cons_append,
    (takeWhile_digits decimals (ends_cons.mpr (by decide))).2] at left
  rw [← left] at undotted
  exact undotted rfl

/-! ## Groups -/

/-- The text is at its end, at a closing bracket, or at a double colon. -/
def Closes (text : List Char) : Prop :=
  text = [] ∨ (∃ tail, text = ']' :: tail) ∨ ∃ tail, text = ':' :: ':' :: tail

theorem Closes.ends (closes : Closes rest) : Ends 16 rest ∧ rest.head? ≠ some '.' := by
  rcases closes with rfl | ⟨tail, rfl⟩ | ⟨tail, rfl⟩
  · exact ⟨ends_nil, by simp⟩
  · exact ⟨ends_cons.mpr (by decide), by simp⟩
  · exact ⟨ends_cons.mpr (by decide), by simp⟩

theorem ends_ten (ends : Ends 16 text) : Ends 10 text := fun character head =>
  Bool.eq_false_iff.mpr fun digit =>
    Bool.eq_false_iff.mp (ends character head) (isDigit_mono (by decide) digit)

theorem readSegment_toDigits (segment : Fin 65536) (ends : Ends 16 rest) :
    readSegment (Nat.toDigits 16 segment ++ rest) = some (segment, rest) :=
  readNumber_toDigits (by decide) (by decide) segment (by simp) ends

/-- Nothing separated is read where the text closes. -/
theorem Closes.readSeparated_eq_none {α : Type} {read : List Char → Option α}
    (stops : ∀ text, Ends 16 text → read text = none) (closes : Closes rest) (first : Bool) :
    readSeparated first read rest = none := by
  cases first with
  | true => exact stops rest closes.ends.1
  | false =>
      rcases closes with rfl | ⟨tail, rfl⟩ | ⟨tail, rfl⟩
      · rfl
      · rfl
      · simp only [readSeparated, Bool.false_eq_true, if_false, readGiven_cons, Option.bind_some]
        exact stops _ (ends_cons.mpr (by decide))

theorem Closes.readGroups_eq (closes : Closes rest) (first : Bool) (limit : Nat) :
    readGroups first limit rest = ([], false, rest) := by
  cases limit with
  | zero => rfl
  | succ limit =>
      have noAddress : readSeparated first readIpv4 rest = none :=
        closes.readSeparated_eq_none (fun _ ends => readIpv4_of_ends (ends_ten ends)) first
      have noGroup : readSeparated first readSegment rest = none :=
        closes.readSeparated_eq_none (fun _ ends => readNumber_of_ends ends) first
      simp only [readGroups, noAddress, noGroup, ite_self]

theorem printTail_ends {segments : List (Fin 65536)} (closes : Closes rest) :
    Ends 16 (printTail segments ++ rest) ∧ (printTail segments ++ rest).head? ≠ some '.' := by
  cases segments with
  | nil => exact closes.ends
  | cons segment segments => exact ⟨ends_cons.mpr (by decide), by simp [printTail]⟩

/-- One printed group is read where no version 4 address stands. -/
theorem readGroups_group {segment : Fin 65536} {first : Bool} {limit : Nat}
    {opening : List Char} (opens : opening = if first then [] else [':']) (ends : Ends 16 rest)
    (undotted : rest.head? ≠ some '.') :
    readGroups first (limit + 1) (opening ++ (Nat.toDigits 16 segment ++ rest)) =
      (segment :: (readGroups false limit rest).1, (readGroups false limit rest).2) := by
  have noAddress : readSeparated first readIpv4
      (opening ++ (Nat.toDigits 16 segment ++ rest)) = none := by
    have none := readIpv4_of_hexadecimal segment ends undotted
    cases first <;> simp [readSeparated, opens, none]
  have group : readSeparated first readSegment
      (opening ++ (Nat.toDigits 16 segment ++ rest)) = some (segment, rest) := by
    have some := readSegment_toDigits segment ends
    cases first <;> simp [readSeparated, opens, some]
  simp only [readGroups, noAddress, ite_self, group]

theorem readGroups_printTail {segments : List (Fin 65536)} {limit : Nat} (closes : Closes rest)
    (fits : segments.length ≤ limit) :
    readGroups false limit (printTail segments ++ rest) = (segments, false, rest) := by
  induction segments generalizing limit with
  | nil => exact closes.readGroups_eq false limit
  | cons segment segments induction =>
      obtain ⟨limit, rfl⟩ : ∃ less, limit = less + 1 :=
        Nat.exists_eq_succ_of_ne_zero (Nat.ne_zero_of_lt fits)
      obtain ⟨ends, undotted⟩ := @printTail_ends rest segments closes
      have group : readGroups false (limit + 1)
          ([':'] ++ (Nat.toDigits 16 segment ++ (printTail segments ++ rest))) = _ :=
        readGroups_group rfl ends undotted
      rw [induction (Nat.le_of_succ_le_succ fits)] at group
      simpa [printTail] using group

/-- Printed groups are read up to where the text closes. -/
theorem readGroups_printSegments {segments : List (Fin 65536)} {limit : Nat}
    (closes : Closes rest) (fits : segments.length ≤ limit) :
    readGroups true limit (printSegments segments ++ rest) = (segments, false, rest) := by
  cases segments with
  | nil => exact closes.readGroups_eq true limit
  | cons first tail =>
      obtain ⟨limit, rfl⟩ : ∃ less, limit = less + 1 :=
        Nat.exists_eq_succ_of_ne_zero (Nat.ne_zero_of_lt fits)
      obtain ⟨ends, undotted⟩ := @printTail_ends rest tail closes
      have group : readGroups true (limit + 1)
          ([] ++ (Nat.toDigits 16 first ++ (printTail tail ++ rest))) = _ :=
        readGroups_group rfl ends undotted
      rw [readGroups_printTail closes (Nat.le_of_succ_le_succ fits)] at group
      simpa [printSegments] using group

/-! ## Version 6 addresses -/

/-- Zeroes stand at the span. -/
def Zeroes (segments : List (Fin 65536)) (span : Span) : Prop :=
  ∃ front back, segments = front ++ List.replicate span.length 0 ++ back ∧
    front.length = span.start

theorem Zeroes.append {segments : List (Fin 65536)} {span : Span}
    (zeroes : Zeroes segments span) (more : List (Fin 65536)) :
    Zeroes (segments ++ more) span := by
  obtain ⟨front, back, rfl, start⟩ := zeroes
  exact ⟨front, back ++ more, by simp, start⟩

theorem Zeroes.split {segments : List (Fin 65536)} {span : Span}
    (zeroes : Zeroes segments span) :
    segments = segments.take span.start ++ List.replicate span.length 0 ++
      segments.drop (span.start + span.length) := by
  obtain ⟨front, back, rfl, start⟩ := zeroes
  simp [← start]

/-- The segments end with the span. -/
def EndsWith (segments : List (Fin 65536)) (span : Span) : Prop :=
  ∃ front, segments = front ++ List.replicate span.length 0 ∧
    (span.length ≠ 0 → front.length = span.start)

theorem EndsWith.zeroes {segments : List (Fin 65536)} {span : Span}
    (ending : EndsWith segments span) (some : span.length ≠ 0) : Zeroes segments span := by
  obtain ⟨front, rfl, start⟩ := ending
  exact ⟨front, [], by simp, start some⟩

/-- The run that ends with the segments goes on with a zero. -/
theorem EndsWith.succ {segments : List (Fin 65536)} {span : Span}
    (ending : EndsWith segments span) :
    EndsWith (segments ++ [0])
      { start := if span.length = 0 then segments.length else span.start
        length := span.length + 1 } := by
  obtain ⟨front, rfl, start⟩ := ending
  refine ⟨front, by simp [List.replicate_succ'], fun _ => ?_⟩
  show front.length = if span.length = 0 then _ else span.start
  split_ifs with new
  · simp [new]
  · exact start new

/-- The scan keeps a run of zeroes among the segments behind it, and the run that ends there. -/
theorem scanZeroes_zeroes {longest current : Span} {seen left : List (Fin 65536)}
    (found : Zeroes seen longest) (ending : EndsWith seen current) :
    Zeroes (seen ++ left) (scanZeroes longest current seen.length left) := by
  induction left generalizing longest current seen with
  | nil => simpa [scanZeroes] using found
  | cons segment left induction =>
      have split : seen ++ segment :: left = (seen ++ [segment]) ++ left := by simp
      have length : seen.length + 1 = (seen ++ [segment]).length := by simp
      rw [scanZeroes, split, length]
      by_cases zero : segment = 0
      · subst zero
        have longer := ending.succ
        rw [if_pos rfl]
        refine induction ?_ longer
        exact iteInduction (fun _ => longer.zeroes (Nat.succ_ne_zero _)) fun _ => found.append _
      · rw [if_neg zero]
        exact induction (found.append _) ⟨seen ++ [segment], by simp, by simp⟩

theorem longestZeroes_zeroes (segments : List (Fin 65536)) :
    Zeroes segments (longestZeroes segments) := by
  have start : Zeroes [] ⟨0, 0⟩ := ⟨[], [], rfl, rfl⟩
  exact scanZeroes_zeroes start ⟨[], rfl, by simp⟩

theorem Ipv4Addr.segments_ofSegments (high low : Fin 65536) :
    (Ipv4Addr.ofSegments high low).segments = [high, low] := by
  simp only [segments, ofSegments, List.cons.injEq, Fin.ext_iff, and_true]
  omega

theorem Ipv6Addr.toIpv4Mapped_eq_some {address : Ipv6Addr} {ipv4 : Ipv4Addr}
    (mapped : address.toIpv4Mapped = some ipv4) :
    address.segments = [0, 0, 0, 0, 0, 65535] ++ ipv4.segments := by
  unfold toIpv4Mapped at mapped
  split at mapped
  · rename_i high low segments
    obtain rfl := Option.some.inj mapped
    rw [Ipv4Addr.segments_ofSegments, segments]
    rfl
  · cases mapped

theorem Ipv6Addr.eq_of_segments {address other : Ipv6Addr}
    (same : address.segments = other.segments) : address = other := by
  cases address
  cases other
  simpa using same

/-- Eight groups are an address. -/
theorem readIpv6_full {address : Ipv6Addr} {ipv4 : Bool}
    (read : readGroups true 8 text = (address.segments, ipv4, rest)) :
    readIpv6 text = some (address, rest) := by
  rw [readIpv6]
  simp only [read, address.length_eq, dite_true]

/-- Groups around a double colon are an address. -/
theorem readIpv6_compressed {address : Ipv6Addr} {ipv4 : Bool} {front back : List (Fin 65536)}
    {middle : List Char} (head : readGroups true 8 text = (front, false, ':' :: ':' :: middle))
    (short : front.length ≠ 8)
    (tail : readGroups true (8 - (front.length + 1)) middle = (back, ipv4, rest))
    (segments : address.segments =
      front ++ List.replicate (8 - (front.length + back.length)) 0 ++ back) :
    readIpv6 text = some (address, rest) := by
  have filled (fits : front.length + back.length ≤ 8) : Ipv6Addr.filled front back fits = address :=
    Ipv6Addr.eq_of_segments segments.symm
  rw [readIpv6]
  simp only [head, short, dite_false, Bool.false_eq_true, if_false, readGiven_cons,
    Option.bind_some, Option.bind_eq_bind, Option.pure_def, tail, filled]

/-- A version 6 address is printed as a mapped address, around a double colon, or in full. -/
theorem Ipv6Addr.display_cases (address : Ipv6Addr) :
    (∃ ipv4 : Ipv4Addr, address.segments = [0, 0, 0, 0, 0, 65535] ++ ipv4.segments ∧
      address.display = [':', ':', 'f', 'f', 'f', 'f', ':'] ++ ipv4.display) ∨
    (∃ front back, front.length + back.length < 8 ∧
      address.segments = front ++ List.replicate (8 - (front.length + back.length)) 0 ++ back ∧
      address.display = printSegments front ++ [':', ':'] ++ printSegments back) ∨
    address.display = printSegments address.segments := by
  cases mapped : address.toIpv4Mapped with
  | some ipv4 => exact .inl ⟨ipv4, toIpv4Mapped_eq_some mapped, by rw [display, mapped]⟩
  | none =>
      have split := (longestZeroes_zeroes address.segments).split
      simp only [display, mapped]
      generalize longestZeroes address.segments = zeroes at split ⊢
      by_cases long : 1 < zeroes.length
      · rw [if_pos long]
        refine .inr (.inl ⟨_, _, ?_, ?_, rfl⟩)
        all_goals
          have total := congrArg List.length split
          rw [List.length_append, List.length_append, List.length_replicate,
            address.length_eq] at total
        · omega
        · conv_lhs => rw [split]
          congr 3
          omega
      · exact .inr (.inr (if_neg long))

/-- A mapped address is read as a group and a version 4 address after a double colon. -/
theorem readGroups_mapped (ipv4 : Ipv4Addr) (ends : Ends 10 rest) :
    readGroups true 7 (['f', 'f', 'f', 'f', ':'] ++ ipv4.display ++ rest) =
      (65535 :: ipv4.segments, true, rest) := by
  have group : readGroups true 7
      ([] ++ (Nat.toDigits 16 (65535 : Fin 65536) ++ (':' :: (ipv4.display ++ rest)))) = _ :=
    readGroups_group rfl (ends_cons.mpr (by decide)) (by simp)
  have address : readGroups false 6 (':' :: (ipv4.display ++ rest)) =
      (ipv4.segments, true, rest) := by
    simp [readGroups, readSeparated, readIpv4_display ipv4 ends]
  rw [address] at group
  exact group

/-- A printed version 6 address is read back where the text closes. -/
theorem readIpv6_display (address : Ipv6Addr) (closes : Closes rest) :
    readIpv6 (address.display ++ rest) = some (address, rest) := by
  rcases address.display_cases with ⟨ipv4, segments, shown⟩ | ⟨front, back, few, segments, shown⟩ |
    shown
  · have nothing : readGroups true 8 (address.display ++ rest) =
        ([], false, ':' :: ':' :: (['f', 'f', 'f', 'f', ':'] ++ ipv4.display ++ rest)) := by
      rw [shown]
      exact Closes.readGroups_eq (.inr (.inr ⟨_, rfl⟩)) true 8
    exact readIpv6_compressed nothing (by decide) (readGroups_mapped ipv4 (ends_ten closes.ends.1))
      segments
  · have head : readGroups true 8 (address.display ++ rest) =
        (front, false, ':' :: ':' :: (printSegments back ++ rest)) := by
      have read := @readGroups_printSegments (':' :: ':' :: (printSegments back ++ rest)) front 8
        (.inr (.inr ⟨_, rfl⟩)) (by omega)
      simpa [shown] using read
    exact readIpv6_compressed head (by omega) (readGroups_printSegments closes (by omega)) segments
  · have read : readGroups true 8 (printSegments address.segments ++ rest) = _ :=
      readGroups_printSegments closes address.length_eq.le
    rw [shown]
    exact readIpv6_full read

theorem readIpv4_printSegments (segments : List (Fin 65536)) (closes : Closes rest) :
    readIpv4 (printSegments segments ++ rest) = none := by
  cases segments with
  | nil => exact readIpv4_of_ends (ends_ten closes.ends.1)
  | cons first tail =>
      obtain ⟨ends, undotted⟩ := @printTail_ends rest tail closes
      have none := readIpv4_of_hexadecimal first ends undotted
      rwa [← List.append_assoc] at none

theorem readIpv4_display6 (address : Ipv6Addr) : readIpv4 address.display = none := by
  rcases address.display_cases with ⟨ipv4, -, shown⟩ | ⟨front, back, -, -, shown⟩ | shown
  · rw [shown]
    exact readIpv4_of_ends (ends_cons.mpr (by decide))
  · rw [shown, List.append_assoc]
    exact readIpv4_printSegments front (.inr (.inr ⟨_, rfl⟩))
  · rw [shown, ← List.append_nil (printSegments _)]
    exact readIpv4_printSegments _ (.inl rfl)

/-- A printed address is parsed. -/
theorem parseIpAddr_display (address : IpAddr) : parseIpAddr address.display = some address := by
  cases address with
  | v4 address =>
      have read : readIpv4 (address.display ++ []) = some (address, []) :=
        readIpv4_display address ends_nil
      rw [List.append_nil] at read
      simp [parseIpAddr, parseWith, readIpAddr, IpAddr.display, read]
  | v6 address =>
      have read : readIpv6 (address.display ++ []) = some (address, []) :=
        readIpv6_display address (.inl rfl)
      rw [List.append_nil] at read
      simp [parseIpAddr, parseWith, readIpAddr, IpAddr.display, readIpv4_display6, read]

/-! ## The characters of an address -/

theorem Ipv4Addr.mem_display {address : Ipv4Addr} {character : Char}
    (member : character ∈ address.display) : isDigit 10 character = true ∨ character = '.' := by
  have digits {value : Nat} (printed : character ∈ Nat.toDigits 10 value) :
      isDigit 10 character = true := isDigit_of_mem_toDigits (by decide) (by decide) printed
  simp only [display, List.mem_append, List.mem_cons] at member
  rcases member with printed | dot | printed | dot | printed | dot | printed
  · exact .inl (digits printed)
  · exact .inr dot
  · exact .inl (digits printed)
  · exact .inr dot
  · exact .inl (digits printed)
  · exact .inr dot
  · exact .inl (digits printed)

theorem mem_printSegments {segments : List (Fin 65536)} {character : Char}
    (member : character ∈ printSegments segments) :
    isDigit 16 character = true ∨ character = ':' := by
  have digits {value : Nat} (printed : character ∈ Nat.toDigits 16 value) :
      isDigit 16 character = true := isDigit_of_mem_toDigits (by decide) (by decide) printed
  cases segments with
  | nil => cases member
  | cons first tail =>
      obtain printed | later := List.mem_append.mp member
      · exact .inl (digits printed)
      · obtain ⟨segment, -, printed⟩ := List.mem_flatMap.mp later
        obtain colon | printed := List.mem_cons.mp printed
        · exact .inr colon
        · exact .inl (digits printed)

theorem Ipv6Addr.mem_display {address : Ipv6Addr} {character : Char}
    (member : character ∈ address.display) :
    isDigit 16 character = true ∨ character = '.' ∨ character = ':' := by
  have printed {segments : List (Fin 65536)} (member : character ∈ printSegments segments) :
      isDigit 16 character = true ∨ character = '.' ∨ character = ':' :=
    (mem_printSegments member).imp_right .inr
  rcases address.display_cases with ⟨ipv4, -, shown⟩ | ⟨front, back, -, -, shown⟩ | shown
  · rw [shown] at member
    obtain start | member := List.mem_append.mp member
    · have kind : character = ':' ∨ character = 'f' := by
        simp only [List.mem_cons, List.not_mem_nil, or_false] at start
        tauto
      rcases kind with rfl | rfl
      · exact .inr (.inr rfl)
      · exact .inl (by decide)
    · exact (Ipv4Addr.mem_display member).imp (isDigit_mono (by decide)) .inl
  · rw [shown] at member
    simp only [List.mem_append, List.mem_cons, List.not_mem_nil, or_false, or_self] at member
    rcases member with (member | colon) | member
    · exact printed member
    · exact .inr (.inr colon)
    · exact printed member
  · exact printed (shown ▸ member)

theorem IpAddr.mem_display {address : IpAddr} {character : Char}
    (member : character ∈ address.display) :
    isDigit 16 character = true ∨ character = '.' ∨ character = ':' := by
  cases address with
  | v4 address => exact (Ipv4Addr.mem_display member).imp (isDigit_mono (by decide)) .inl
  | v6 address => exact Ipv6Addr.mem_display member

theorem Ipv4Addr.colon_not_mem_display (address : Ipv4Addr) : ':' ∉ address.display := by
  intro member
  rcases mem_display member with digit | dot
  · exact absurd digit (by decide)
  · exact absurd dot (by decide)

theorem Ipv6Addr.colon_mem_display (address : Ipv6Addr) : ':' ∈ address.display := by
  rcases address.display_cases with ⟨ipv4, -, shown⟩ | ⟨front, back, -, -, shown⟩ | shown
  · simp [shown]
  · simp [shown]
  · match segments : address.segments, address.length_eq with
    | first :: second :: tail, _ => simp [shown, segments, printSegments, printTail]

theorem IpAddr.display_ne_nil (address : IpAddr) : address.display ≠ [] := by
  cases address with
  | v4 address => simp [display, Ipv4Addr.display]
  | v6 address => exact List.ne_nil_of_mem address.colon_mem_display

/-- At most two groups are read from a text without colons. -/
theorem readGroups_of_not_mem {limit : Nat} (colonless : ':' ∉ text) :
    (readGroups true limit text).1.length ≤ 2 ∧
      ((readGroups true limit text).2.1 = true ∨ ':' ∉ (readGroups true limit text).2.2) := by
  cases limit with
  | zero => exact ⟨by simp [readGroups], .inr colonless⟩
  | succ limit =>
      rw [readGroups]
      split
      · exact ⟨le_rfl, .inl rfl⟩
      · split
        · rename_i group rest found
          have kept : ':' ∉ rest := fun member => by
            obtain ⟨digits, rfl, -⟩ := readNumber_eq_some found
            exact colonless (List.mem_append_right _ member)
          have stopped : readGroups false limit rest = ([], false, rest) := by
            have none : readGiven ':' rest = none := by
              by_contra some
              obtain ⟨tail, some⟩ := Option.ne_none_iff_exists'.mp some
              exact kept (readGiven_eq_some.mp some ▸ List.mem_cons_self)
            cases limit <;> simp [readGroups, readSeparated, none]
          rw [stopped]
          exact ⟨by simp, .inr kept⟩
        · exact ⟨by simp, .inr colonless⟩

/-- A version 6 address is read only where there is a colon. -/
theorem readIpv6_of_not_mem (colonless : ':' ∉ text) : readIpv6 text = none := by
  obtain ⟨few, stopped⟩ := @readGroups_of_not_mem text 8 colonless
  rw [readIpv6]
  simp only [show (readGroups true 8 text).1.length ≠ 8 by omega, dite_false]
  rcases stopped with mapped | colonless
  · rw [if_pos mapped]
  · have none : readGiven ':' (readGroups true 8 text).2.2 = none := by
      by_contra some
      obtain ⟨tail, some⟩ := Option.ne_none_iff_exists'.mp some
      exact colonless (readGiven_eq_some.mp some ▸ List.mem_cons_self)
    simp [none]

theorem parseWith_eq_some {α : Type} {read : List Char → Option (α × List Char)} {value : α} :
    parseWith read text = some value ↔ read text = some (value, []) := by
  rw [parseWith]
  split
  · rename_i other found
    simp [found]
  · rename_i none
    refine ⟨nofun, fun found => absurd found (none value)⟩

theorem parseIpAddr_eq_some {address : IpAddr} (parsed : parseIpAddr text = some address) :
    (∃ ipv4, address = .v4 ipv4 ∧ text = ipv4.display) ∨
      (∃ ipv6, address = .v6 ipv6) ∧ ':' ∈ text := by
  have read := parseWith_eq_some.mp parsed
  unfold readIpAddr at read
  split at read
  · rename_i ipv4 rest found
    obtain ⟨rfl, rfl⟩ := Prod.mk.inj (Option.some.inj read)
    exact .inl ⟨ipv4, rfl, by rw [readIpv4_canonical found, List.append_nil]⟩
  · obtain ⟨⟨ipv6, rest⟩, found, same⟩ := Option.map_eq_some_iff.mp read
    refine .inr ⟨⟨ipv6, (Prod.mk.inj same).1.symm⟩, ?_⟩
    by_contra colonless
    rw [readIpv6_of_not_mem colonless] at found
    cases found

/-! ## Socket addresses -/

/-- A printed port is read to the end. -/
theorem readPort_toDigits (port : Fin 65536) :
    readPort (':' :: Nat.toDigits 10 port) = some (port, []) := by
  have number : readNumber 10 none true 65536 (Nat.toDigits 10 port) = some (port, []) :=
    readNumber_toDigits_whole (by decide) (by decide) port (by simp)
  rw [readPort, readGiven_cons, Option.bind_some, number]

theorem parseSocketAddr_v4 (address : Ipv4Addr) (port : Fin 65536) :
    parseSocketAddr (address.display ++ ':' :: Nat.toDigits 10 port) =
      some { ip := .v4 address, port } := by
  have ip : readIpv4 (address.display ++ ':' :: Nat.toDigits 10 port) =
      some (address, ':' :: Nat.toDigits 10 port) :=
    readIpv4_display address (ends_cons.mpr (by decide))
  simp [parseSocketAddr, parseWith, readSocketAddr, readSocketAddrV4, ip, readPort_toDigits]

theorem parseSocketAddr_v6 (address : Ipv6Addr) (port : Fin 65536) :
    parseSocketAddr ('[' :: (address.display ++ ']' :: ':' :: Nat.toDigits 10 port)) =
      some { ip := .v6 address, port } := by
  have ip : readIpv6 (address.display ++ ']' :: ':' :: Nat.toDigits 10 port) =
      some (address, ']' :: ':' :: Nat.toDigits 10 port) :=
    readIpv6_display address (.inr (.inl ⟨_, rfl⟩))
  have noV4 (text : List Char) : readIpv4 ('[' :: text) = none :=
    readIpv4_of_ends (ends_cons.mpr (by decide))
  have noScope (text : List Char) : readScopeId (']' :: text) = none := by
    simp [readScopeId, readGiven]
  simp [parseSocketAddr, parseWith, readSocketAddr, readSocketAddrV4, readSocketAddrV6, noV4,
    noScope, ip, readPort_toDigits]

/-- A socket address is parsed from a version 4 address and a port, or between brackets. -/
theorem parseSocketAddr_eq_some {address : SocketAddr}
    (parsed : parseSocketAddr text = some address) :
    (∃ ipv4 tail, address.ip = .v4 ipv4 ∧ text = ipv4.display ++ ':' :: tail) ∨
      (∃ ipv6, address.ip = .v6 ipv6) ∧ ∃ tail, text = '[' :: tail := by
  have read := parseWith_eq_some.mp parsed
  rcases Option.or_eq_some_iff.mp read with read | ⟨-, read⟩
  · simp only [readSocketAddrV4, Option.bind_eq_bind, Option.bind_eq_some_iff, Option.pure_def,
      Option.some.injEq, Prod.mk.injEq, Prod.exists, readPort, readGiven_eq_some] at read
    obtain ⟨ipv4, rest, ip, port, _, ⟨tail, rfl, -⟩, rfl, -⟩ := read
    exact .inl ⟨ipv4, tail, rfl, readIpv4_canonical ip⟩
  · simp only [readSocketAddrV6, Option.bind_eq_bind, Option.bind_eq_some_iff, Option.pure_def,
      Option.some.injEq, Prod.mk.injEq, Prod.exists, readGiven_eq_some] at read
    obtain ⟨tail, rfl, ipv6, _, -, _, -, port, _, -, rfl, -⟩ := read
    exact .inr ⟨⟨ipv6, rfl⟩, tail, rfl⟩

end Addresses
end Foundation
