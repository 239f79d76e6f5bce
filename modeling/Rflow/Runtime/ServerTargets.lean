import Rflow.Foundation.Addresses
import Rflow.Runtime.PlacementPrompt
import Rflow.Runtime.ServerPeer

/-!
# Server targets in text

How the target that a user types is read.  A socket address is kept as it is printed, a host before
a port and any other text are kept as they are typed.  A target is printed under the key that its
endpoint is bound to, and the key is read back as the same target unless the host is a text with
colons that is not the print of an address.
-/

namespace Rflow

open Foundation

def defaultPort : Nat := 24801

/-- `str::rsplit_once`: what is before and behind the last occurrence of a character. -/
def rsplitOnce (separator : Char) : List Char → Option (List Char × List Char)
  | [] => none
  | character :: rest =>
      match rsplitOnce separator rest with
      | some (front, back) => some (character :: front, back)
      | none => if character = separator then some ([], rest) else none

def ServerTarget.fromStr (value : String) : Outcome String ServerTarget :=
  let value := trim value.toList
  if value = [] ∨ value.any isWhiteSpace then
    .err "server target must be an IP address or hostname"
  else
    match Addresses.parseSocketAddr value with
    | some address => .ok { host := .ofList address.ip.display, port := address.port }
    | none =>
        if value.head? = some '[' ∨ value.getLast? = some ']' then
          .err ("invalid bracketed server target " ++ .ofList value)
        else if value.count ':' = 1 then
          match rsplitOnce ':' value with
          | none => .panic "one colon is present"
          | some (host, port) =>
              if host = [] then
                .err "server target hostname cannot be empty"
              else
                match Numerals.parseNumber 65536 port with
                | none => .err ("invalid server target port " ++ .ofList port)
                | some port => .ok { host := .ofList host, port }
        else
          .ok { host := .ofList value, port := defaultPort }

/-! ## Splitting -/

theorem rsplitOnce_of_not_mem {separator : Char} {text : List Char} (missing : separator ∉ text) :
    rsplitOnce separator text = none := by
  induction text with
  | nil => rfl
  | cons character rest induction =>
      obtain ⟨other, missing⟩ := not_or.mp (List.mem_cons.not.mp missing)
      rw [rsplitOnce, induction missing]
      exact if_neg (Ne.symm other)

theorem rsplitOnce_append {separator : Char} {back : List Char} (front : List Char)
    (missing : separator ∉ back) :
    rsplitOnce separator (front ++ separator :: back) = some (front, back) := by
  induction front with
  | nil => simp [rsplitOnce, rsplitOnce_of_not_mem missing]
  | cons character front induction => rw [List.cons_append, rsplitOnce, induction]

theorem count_colon {host port : List Char} (colonless : ':' ∉ host) (behind : ':' ∉ port) :
    (host ++ ':' :: port).count ':' = 1 := by
  rw [List.count_append, List.count_cons_self, List.count_eq_zero.mpr colonless,
    List.count_eq_zero.mpr behind]

/-- A text with one colon is what is before the colon and what is behind it. -/
theorem exists_of_count_eq_one {text : List Char} (once : text.count ':' = 1) :
    ∃ host port, text = host ++ ':' :: port ∧ ':' ∉ host ∧ ':' ∉ port := by
  have member : ':' ∈ text := List.count_pos_iff.mp (by omega)
  obtain ⟨host, port, rfl⟩ := List.append_of_mem member
  rw [List.count_append, List.count_cons_self] at once
  exact ⟨host, port, rfl, List.count_eq_zero.mp (by omega), List.count_eq_zero.mp (by omega)⟩

/-! ## What is accepted -/

/-- A text with characters, none of which is white space. -/
def Solid (text : List Char) : Prop :=
  text ≠ [] ∧ ∀ character ∈ text, isWhiteSpace character = false

theorem solid_iff {text : List Char} :
    Solid text ↔ ¬ (text = [] ∨ text.any isWhiteSpace = true) := by
  simp [Solid]

theorem Solid.trim_eq {text : List Char} (solid : Solid text) : trim text = text := by
  have kept (characters : List Char)
      (dark : ∀ character ∈ characters, isWhiteSpace character = false) :
      characters.dropWhile isWhiteSpace = characters := by
    refine List.dropWhile_eq_self_iff.mpr fun some => ?_
    simpa using dark _ (List.getElem_mem some)
  have reversed := kept text.reverse fun character member =>
    solid.2 character (List.mem_reverse.mp member)
  rw [trim, kept text solid.2, reversed, List.reverse_reverse]

/-- A text that is no socket address and that no bracket encloses. -/
structure Unbracketed (text : List Char) : Prop where
  unparsed : Addresses.parseSocketAddr text = none
  unopened : text.head? ≠ some '['
  unclosed : text.getLast? ≠ some ']'

/-- How a text without white space names a target. -/
inductive Names : List Char → ServerTarget → Prop
  | address {text : List Char} {address : Addresses.SocketAddr}
      (parsed : Addresses.parseSocketAddr text = some address) :
      Names text { host := .ofList address.ip.display, port := address.port }
  | hostPort {host port : List Char} {number : Fin 65536}
      (unbracketed : Unbracketed (host ++ ':' :: port)) (nonempty : host ≠ [])
      (colonless : ':' ∉ host) (behind : ':' ∉ port)
      (parsed : Numerals.parseNumber 65536 port = some number) :
      Names (host ++ ':' :: port) { host := .ofList host, port := number }
  | bare {text : List Char} (unbracketed : Unbracketed text) (colons : text.count ':' ≠ 1) :
      Names text { host := .ofList text, port := defaultPort }

theorem ServerTarget.fromStr_eq_ok {value : String} {target : ServerTarget} :
    ServerTarget.fromStr value = .ok target ↔
      Solid (trim value.toList) ∧ Names (trim value.toList) target := by
  simp only [ServerTarget.fromStr]
  generalize trim value.toList = text
  constructor
  · intro accepted
    have solid : Solid text := by
      by_contra blank
      rw [if_pos (not_not.mp (solid_iff.not.mp blank))] at accepted
      cases accepted
    rw [if_neg (solid_iff.mp solid)] at accepted
    refine ⟨solid, ?_⟩
    cases parsed : Addresses.parseSocketAddr text with
    | some address =>
        rw [parsed] at accepted
        obtain rfl := Outcome.ok.inj accepted
        exact .address parsed
    | none =>
        simp only [parsed] at accepted
        split_ifs at accepted with bracketed once
        · obtain ⟨host, port, rfl, colonless, behind⟩ := exists_of_count_eq_one once
          simp only [rsplitOnce_append host behind] at accepted
          split_ifs at accepted with empty
          split at accepted
          · cases accepted
          · rename_i number found
            obtain rfl := Outcome.ok.inj accepted
            obtain ⟨unopened, unclosed⟩ := not_or.mp bracketed
            exact .hostPort ⟨parsed, unopened, unclosed⟩ empty colonless behind found
        · obtain rfl := Outcome.ok.inj accepted
          obtain ⟨unopened, unclosed⟩ := not_or.mp bracketed
          exact .bare ⟨parsed, unopened, unclosed⟩ once
  · rintro ⟨solid, names⟩
    simp only [if_neg (solid_iff.mp solid)]
    cases names with
    | address parsed => rw [parsed]
    | @hostPort host port number unbracketed nonempty colonless behind parsed =>
        simp only [unbracketed.unparsed, unbracketed.unopened, unbracketed.unclosed, or_self,
          if_false, count_colon colonless behind, if_true, rsplitOnce_append host behind, nonempty,
          parsed]
    | bare unbracketed colons =>
        simp only [unbracketed.unparsed, unbracketed.unopened, unbracketed.unclosed, or_self,
          if_false, colons]

/-! ## What a target holds -/

theorem isWhiteSpace_of_isDigit {radix : Nat} {character : Char}
    (digit : Numerals.isDigit radix character = true) : isWhiteSpace character = false := by
  have code := Numerals.toNat_of_isDigit digit
  simp only [isWhiteSpace, Bool.or_eq_false_iff, Bool.and_eq_false_iff, beq_eq_false_iff_ne,
    decide_eq_false_iff_not]
  omega

theorem solid_display (address : Addresses.IpAddr) : Solid address.display := by
  refine ⟨address.display_ne_nil, fun character member => ?_⟩
  rcases Addresses.IpAddr.mem_display member with digit | rfl | rfl
  · exact isWhiteSpace_of_isDigit digit
  · decide
  · decide

theorem solid_port (port : Nat) : Solid (Nat.toDigits 10 port) :=
  ⟨Nat.toDigits_ne_nil, fun _ member =>
    isWhiteSpace_of_isDigit (Numerals.isDigit_of_mem_toDigits (by decide) (by decide) member)⟩

theorem head_display (address : Addresses.IpAddr) : address.display.head? ≠ some '[' := by
  intro head
  rcases Addresses.IpAddr.mem_display (List.mem_of_head? head) with digit | dot | colon
  · exact absurd digit (by decide)
  · exact absurd dot (by decide)
  · exact absurd colon (by decide)

/-- A target has a host without white space that no bracket opens, and a port in its range. -/
theorem Names.host {text : List Char} {target : ServerTarget} (names : Names text target)
    (solid : Solid text) :
    Solid target.host.toList ∧ target.host.toList.head? ≠ some '[' ∧ target.port < 65536 := by
  cases names with
  | @address _ address parsed =>
      rw [String.toList_ofList]
      exact ⟨solid_display _, head_display _, address.port.isLt⟩
  | @hostPort host port number unbracketed nonempty colonless behind parsed =>
      rw [String.toList_ofList]
      refine ⟨⟨nonempty, fun character member => ?_⟩, ?_, number.isLt⟩
      · exact solid.2 character (List.mem_append_left _ member)
      · have unopened := unbracketed.unopened
        rwa [List.head?_append_of_ne_nil _ nonempty] at unopened
  | bare unbracketed colons =>
      rw [String.toList_ofList]
      exact ⟨solid, unbracketed.unopened, (by decide : defaultPort < 65536)⟩

/-! ## Reading a key back -/

/-- A host with colons is the print of a version 6 address. -/
def Canonical (host : List Char) : Prop :=
  ':' ∈ host → ∃ address : Addresses.Ipv6Addr, host = address.display

theorem ServerTarget.toList_display (target : ServerTarget) :
    target.display.toList =
      if ':' ∈ target.host.toList then
        '[' :: (target.host.toList ++ ']' :: ':' :: Nat.toDigits 10 target.port)
      else
        target.host.toList ++ ':' :: Nat.toDigits 10 target.port := by
  rw [display]
  rw [String.contains_char_eq]
  simp only [decide_eq_true_eq]
  split_ifs <;> simp

theorem Solid.append {front back : List Char} (solid : Solid front) (solid' : Solid back) :
    Solid (front ++ back) := by
  refine ⟨List.append_ne_nil_of_left_ne_nil solid.1 back, fun character member => ?_⟩
  rcases List.mem_append.mp member with member | member
  · exact solid.2 character member
  · exact solid'.2 character member

theorem Solid.cons {first : Char} {rest : List Char} (dark : isWhiteSpace first = false)
    (solid : Solid rest) : Solid (first :: rest) := by
  refine ⟨List.cons_ne_nil first rest, fun character member => ?_⟩
  rcases List.mem_cons.mp member with rfl | member
  · exact dark
  · exact solid.2 character member

theorem colon_not_mem_port (port : Nat) : ':' ∉ Nat.toDigits 10 port := fun member =>
  absurd (Numerals.isDigit_of_mem_toDigits (by decide) (by decide) member :
    Numerals.isDigit 10 ':' = true) (by decide)

theorem getLast_port {front : List Char} (port : Nat) :
    (front ++ ':' :: Nat.toDigits 10 port).getLast? ≠ some ']' := by
  intro last
  have shown : front ++ ':' :: Nat.toDigits 10 port = front ++ [':'] ++ Nat.toDigits 10 port := by
    simp
  rw [shown, List.getLast?_append_of_ne_nil _ Nat.toDigits_ne_nil] at last
  have digit : Numerals.isDigit 10 ']' = true :=
    Numerals.isDigit_of_mem_toDigits (by decide) (by decide) (List.mem_of_getLast? last)
  exact absurd digit (by decide)

/-- A host without colons is named by itself before a port. -/
theorem names_hostPort {host : List Char} (port : Fin 65536) (nonempty : host ≠ [])
    (unopened : host.head? ≠ some '[') (colonless : ':' ∉ host) :
    Names (host ++ ':' :: Nat.toDigits 10 port) { host := .ofList host, port } := by
  have starts : (host ++ ':' :: Nat.toDigits 10 port).head? ≠ some '[' := by
    rwa [List.head?_append_of_ne_nil _ nonempty]
  cases parsed : Addresses.parseSocketAddr (host ++ ':' :: Nat.toDigits 10 port) with
  | some address =>
      rcases Addresses.parseSocketAddr_eq_some parsed with ⟨ipv4, tail, -, text⟩ | ⟨-, tail, text⟩
      · obtain ⟨rfl, -, -⟩ :=
          (List.append_cons_inj_of_notMem colonless (colon_not_mem_port port)).mp text
        exact .address (Addresses.parseSocketAddr_v4 ipv4 port)
      · exact absurd (text ▸ rfl) starts
  | none =>
      exact .hostPort ⟨parsed, starts, getLast_port port⟩ nonempty colonless
        (colon_not_mem_port port) (Numerals.parseNumber_toDigits port)

/-- A host in brackets before a port names itself when it is an address as it is printed. -/
theorem names_brackets {host : List Char} {port : Fin 65536} :
    Names ('[' :: (host ++ ']' :: ':' :: Nat.toDigits 10 port)) { host := .ofList host, port } ↔
      ∃ address : Addresses.Ipv6Addr, host = address.display := by
  constructor
  · intro names
    generalize text : '[' :: (host ++ ']' :: ':' :: Nat.toDigits 10 port) = whole at names
    generalize named : ({ host := .ofList host, port } : ServerTarget) = target at names
    have opened : whole.head? = some '[' := text ▸ rfl
    cases names with
    | @address _ address parsed =>
        obtain ⟨same, -⟩ := ServerTarget.mk.inj named
        have host_eq : host = address.ip.display := String.ofList_injective same
        rcases Addresses.parseSocketAddr_eq_some parsed with ⟨ipv4, tail, -, rfl⟩ | ⟨⟨ipv6, ip⟩, -⟩
        · have nonempty : ipv4.display ≠ [] := (Addresses.IpAddr.v4 ipv4).display_ne_nil
          rw [List.head?_append_of_ne_nil _ nonempty] at opened
          exact absurd opened (head_display (.v4 ipv4))
        · exact ⟨ipv6, by rw [host_eq, ip]; rfl⟩
    | hostPort unbracketed => exact absurd opened unbracketed.unopened
    | bare unbracketed => exact absurd opened unbracketed.unopened
  · rintro ⟨address, rfl⟩
    exact .address (Addresses.parseSocketAddr_v6 address port)

/-- A key is read back as its target when the host is canonical. -/
theorem ServerTarget.fromStr_display_iff {value : String} {target : ServerTarget}
    (accepted : fromStr value = .ok target) :
    fromStr target.display = .ok target ↔ Canonical target.host.toList := by
  obtain ⟨solid, names⟩ := fromStr_eq_ok.mp accepted
  obtain ⟨solidHost, unopened, inRange⟩ := names.host solid
  obtain ⟨host, port⟩ := target
  obtain ⟨host, rfl⟩ : ∃ characters, host = String.ofList characters :=
    ⟨host.toList, String.ofList_toList.symm⟩
  lift port to Fin 65536 using inRange
  have shown := toList_display { host := .ofList host, port }
  simp only [String.toList_ofList] at shown solidHost unopened ⊢
  have behind : Solid (':' :: Nat.toDigits 10 port) := (solid_port port).cons (by decide)
  by_cases colon : ':' ∈ host
  · have whole : Solid ('[' :: (host ++ ']' :: ':' :: Nat.toDigits 10 port)) :=
      (solidHost.append (behind.cons (by decide))).cons (by decide)
    rw [fromStr_eq_ok, shown, if_pos colon, whole.trim_eq, names_brackets]
    exact ⟨fun read _ => read.2, fun canonical => ⟨whole, canonical colon⟩⟩
  · have whole : Solid (host ++ ':' :: Nat.toDigits 10 port) := solidHost.append behind
    rw [fromStr_eq_ok, shown, if_neg colon, whole.trim_eq]
    have read := names_hostPort port solidHost.1 unopened colon
    exact ⟨fun _ member => absurd member colon, fun _ => ⟨whole, read⟩⟩

/-! ## Spellings -/

/-- A text that is a socket address, or has at most one colon, or is a version 6 address as it is
printed. -/
def SettledTarget (text : List Char) : Prop :=
  (Addresses.parseSocketAddr text).isSome ∨ text.count ':' ≤ 1 ∨
    ∃ address : Addresses.Ipv6Addr, text = address.display

/-- The settled texts are those that name canonical hosts. -/
theorem Names.settled_iff {text : List Char} {target : ServerTarget} (names : Names text target) :
    SettledTarget text ↔ Canonical target.host.toList := by
  cases names with
  | @address _ address parsed =>
      rw [String.toList_ofList]
      refine ⟨fun _ colon => ?_, fun _ => .inl (by simp [parsed])⟩
      cases ip : address.ip with
      | v4 ipv4 =>
          rw [ip] at colon
          exact absurd colon ipv4.colon_not_mem_display
      | v6 ipv6 => exact ⟨ipv6, rfl⟩
  | @hostPort host port number unbracketed nonempty colonless behind parsed =>
      rw [String.toList_ofList]
      have once := (count_colon colonless behind).le
      exact ⟨fun _ colon => absurd colon colonless, fun _ => .inr (.inl once)⟩
  | bare unbracketed colons =>
      rw [String.toList_ofList]
      constructor
      · rintro (parsed | few | printed) colon
        · rw [unbracketed.unparsed] at parsed
          cases parsed
        · have some := List.count_pos_iff.mpr colon
          omega
        · exact printed
      · intro canonical
        by_cases colon : ':' ∈ text
        · exact .inr (.inr (canonical colon))
        · exact .inr (.inl (by simp [List.count_eq_zero.mpr colon]))

/-- A text that is not settled is the host that it names. -/
theorem Names.host_of_unsettled {text : List Char} {target : ServerTarget}
    (names : Names text target) (unsettled : ¬ SettledTarget text) : target.host.toList = text := by
  cases names with
  | address parsed => exact absurd (.inl (by simp [parsed])) unsettled
  | @hostPort host port number unbracketed nonempty colonless behind parsed =>
      have once := (count_colon colonless behind).le
      exact absurd (.inr (.inl once)) unsettled
  | bare => exact String.toList_ofList

/-- Targets with the same port are printed alike when they have the same host. -/
theorem ServerTarget.display_inj {target other : ServerTarget} (ports : target.port = other.port) :
    target.display = other.display ↔ target.host = other.host := by
  -- Brackets stand around a host with colons only, so they are no part of a host without.
  have mixed {host plain back : List Char} (colon : ':' ∈ host) (colonless : ':' ∉ plain) :
      '[' :: (host ++ ']' :: back) ≠ plain ++ back := fun same => by
    have cancelled : '[' :: (host ++ [']']) = plain :=
      List.append_cancel_right (show '[' :: (host ++ [']']) ++ back = plain ++ back by simp [same])
    exact colonless (cancelled ▸ by simp [colon])
  rw [← String.toList_inj, ← @String.toList_inj target.host, toList_display, toList_display, ports]
  constructor
  · intro same
    split_ifs at same with colon colon' colon'
    · simpa using same
    · exact absurd same (mixed colon colon')
    · exact absurd same.symm (mixed colon' colon)
    · simpa using same
  · intro same
    rw [same]

/-- Canonical hosts that stand for the same address are the same. -/
theorem Canonical.eq {host other : List Char} {address : Addresses.IpAddr}
    (canonical : Canonical host) (canonical' : Canonical other)
    (parsed : Addresses.parseIpAddr host = some address)
    (parsed' : Addresses.parseIpAddr other = some address) : host = other := by
  have printed {host : List Char} (canonical : Canonical host)
      (parsed : Addresses.parseIpAddr host = some address) : host = address.display := by
    rcases Addresses.parseIpAddr_eq_some parsed with ⟨ipv4, rfl, text⟩ | ⟨-, colon⟩
    · exact text
    · obtain ⟨ipv6, rfl⟩ := canonical colon
      have again : Addresses.parseIpAddr ipv6.display = some (.v6 ipv6) :=
        Addresses.parseIpAddr_display (.v6 ipv6)
      obtain rfl := Option.some.inj (parsed.symm.trans again)
      rfl
  rw [printed canonical parsed, printed canonical' parsed']

/-- The key of an accepted text is read back as its target exactly when the text is settled, and two
accepted spellings of one address and port have the same key exactly when both are settled or they
are the same text. -/
theorem server_target_key_stable (value : String) (target : ServerTarget)
    (accepted : ServerTarget.fromStr value = .ok target) :
    (ServerTarget.fromStr target.display = .ok target ↔ SettledTarget (trim value.toList)) ∧
      ∀ (other : String) (spelled : ServerTarget) (address : Addresses.IpAddr),
        ServerTarget.fromStr other = .ok spelled →
        Addresses.parseIpAddr target.host.toList = some address →
        Addresses.parseIpAddr spelled.host.toList = some address →
        target.port = spelled.port →
          (target.display = spelled.display ↔
            (SettledTarget (trim value.toList) ∧ SettledTarget (trim other.toList)) ∨
              trim value.toList = trim other.toList) := by
  obtain ⟨-, names⟩ := ServerTarget.fromStr_eq_ok.mp accepted
  refine ⟨?_, fun other spelled address accepted' parsed parsed' ports => ?_⟩
  · rw [ServerTarget.fromStr_display_iff accepted, names.settled_iff]
  · obtain ⟨-, names'⟩ := ServerTarget.fromStr_eq_ok.mp accepted'
    rw [ServerTarget.display_inj ports]
    constructor
    · intro hosts
      by_cases settled : SettledTarget (trim value.toList)
      · have canonical := hosts ▸ names.settled_iff.mp settled
        exact .inl ⟨settled, names'.settled_iff.mpr canonical⟩
      · have unsettled : ¬ SettledTarget (trim other.toList) := fun settled' =>
          settled (names.settled_iff.mpr (hosts ▸ names'.settled_iff.mp settled'))
        refine .inr ?_
        rw [← names.host_of_unsettled settled, hosts, names'.host_of_unsettled unsettled]
    · rintro (⟨settled, settled'⟩ | texts)
      · have canonical := names.settled_iff.mp settled
        exact String.toList_inj.mp
          (canonical.eq (names'.settled_iff.mp settled') parsed parsed')
      · have same : ServerTarget.fromStr value = ServerTarget.fromStr other := by
          simp only [ServerTarget.fromStr, texts]
        rw [accepted, accepted'] at same
        rw [Outcome.ok.inj same]

theorem server_target_key_stable_loopback :
    ServerTarget.fromStr "[::1]:24801" = .ok { host := "::1", port := 24801 } ∧
      (ServerTarget.fromStr (ServerTarget.display { host := "::1", port := 24801 }) =
          .ok { host := "::1", port := 24801 } ↔
        SettledTarget (trim "[::1]:24801".toList)) ∧
      (ServerTarget.display { host := "::1", port := 24801 } =
          ServerTarget.display { host := "0:0:0:0:0:0:0:1", port := 24801 } ↔
        (SettledTarget (trim "[::1]:24801".toList) ∧
          SettledTarget (trim "0:0:0:0:0:0:0:1".toList)) ∨
          trim "[::1]:24801".toList = trim "0:0:0:0:0:0:0:1".toList) := by
  have accepted : ServerTarget.fromStr "[::1]:24801" = .ok { host := "::1", port := 24801 } := by
    decide +kernel
  have stable := server_target_key_stable _ _ accepted
  refine ⟨accepted, stable.1, ?_⟩
  exact stable.2 "0:0:0:0:0:0:0:1" { host := "0:0:0:0:0:0:0:1", port := 24801 }
    (.v6 ⟨[0, 0, 0, 0, 0, 0, 0, 1], rfl⟩) (by decide +kernel) (by decide +kernel)
    (by decide +kernel) rfl

/-- The loopback address written in full is accepted; its key is read back as the short text, which
has another key. -/
theorem server_target_key_unstable :
    ServerTarget.fromStr "0:0:0:0:0:0:0:1" = .ok { host := "0:0:0:0:0:0:0:1", port := 24801 } ∧
      ServerTarget.fromStr
          (ServerTarget.display { host := "0:0:0:0:0:0:0:1", port := 24801 }) =
        .ok { host := "::1", port := 24801 } ∧
      ServerTarget.fromStr "::1" = .ok { host := "::1", port := 24801 } ∧
      Addresses.parseIpAddr "0:0:0:0:0:0:0:1".toList = Addresses.parseIpAddr "::1".toList ∧
      ServerTarget.display { host := "0:0:0:0:0:0:0:1", port := 24801 } ≠
        ServerTarget.display { host := "::1", port := 24801 } := by
  have full : ServerTarget.display { host := "0:0:0:0:0:0:0:1", port := 24801 } =
      "[0:0:0:0:0:0:0:1]:24801" :=
    String.toList_inj.mp (by rw [ServerTarget.toList_display]; decide +kernel)
  have short : ServerTarget.display { host := "::1", port := 24801 } = "[::1]:24801" :=
    String.toList_inj.mp (by rw [ServerTarget.toList_display]; decide +kernel)
  rw [full, short]
  decide +kernel

end Rflow
