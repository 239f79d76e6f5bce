import Rflow.Foundation.Hexadecimal
import Rflow.Trust.DeviceIds

/-!
# Devices named in text

A device is named by its id, in either case and with colons anywhere, or by its display name if no
other trusted device has the same.
-/

namespace Rflow

open Foundation

/-- A text without its colons. -/
def DeviceId.compact (text : String) : List Char := text.toList.filter (· ≠ ':')

/-- The digits of a text for a device id, in small letters. -/
def DeviceId.spelling (text : String) : List Char := (compact text).map Char.toLower

/-- `DeviceId::from_str`. -/
def DeviceId.parse (text : String) : Outcome String DeviceId :=
  if (compact text).length ≠ 64 ∨ ¬ (compact text).all (Numerals.isDigit 16) then
    .err "device ID must contain 64 hexadecimal digits"
  else
    .ok { bytes := Numerals.readBytes (compact text) 32, length_eq := Numerals.length_readBytes }

def TrustDatabase.resolvePeer (database : TrustDatabase) (query : String) :
    Outcome String DeviceId :=
  match DeviceId.parse query with
  | .ok deviceId =>
      if database.lists deviceId then
        .ok deviceId
      else
        .err ("trusted device " ++ deviceId.display ++ " was not found")
  | _ =>
      match database.peers.filter fun peer => peer.displayName = query with
      | [] => .err ("trusted device " ++ query ++ " was not found")
      | [peer] => .ok peer.deviceId
      | _ => .err ("multiple trusted devices are named " ++ query ++ "; use the device ID")

/-! ## Ids -/

section

variable {text : String} {deviceId : DeviceId}

theorem toLower_hexByte (byte : UInt8) :
    (hexByte byte).map Char.toLower = Numerals.hexDigits 2 byte.toNat := by
  have small : ∀ value < 16, (hexDigit value).toLower = value.digitChar := by decide
  have bound := byte.toNat_lt
  have high : byte.toNat / 16 % 16 = byte.toNat / 16 := Nat.mod_eq_of_lt (by omega)
  simp only [hexByte, Numerals.hexDigits, List.map_cons, List.map_nil, List.nil_append,
    List.cons_append, high]
  rw [small _ (by omega), small _ (by omega)]

theorem hexByte_ne_colon (byte : UInt8) : ∀ character ∈ hexByte byte, character ≠ ':' := by
  have digit : ∀ value < 16, hexDigit value ≠ ':' := by decide
  have bound := byte.toNat_lt
  rw [hexByte, List.forall_mem_cons, List.forall_mem_singleton]
  exact ⟨digit _ (by omega), digit _ (by omega)⟩

theorem filter_intercalate_hexByte (bytes : List UInt8) :
    ([':'].intercalate (bytes.map hexByte)).filter (· ≠ ':') = bytes.flatMap hexByte := by
  have kept (byte : UInt8) : (hexByte byte).filter (· ≠ ':') = hexByte byte :=
    List.filter_eq_self.mpr fun character member => by
      simpa using hexByte_ne_colon byte character member
  induction bytes with
  | nil => rfl
  | cons byte bytes induction =>
      cases bytes with
      | nil => simpa using hexByte_ne_colon byte
      | cons next bytes =>
          rw [List.map_cons, List.map_cons, List.intercalate_cons_cons, List.filter_append,
            List.filter_append, kept, ← List.map_cons, induction]
          rfl

/-- The digits of a printed id are those of its bytes. -/
theorem DeviceId.spelling_display (deviceId : DeviceId) :
    spelling deviceId.display =
      deviceId.bytes.flatMap fun byte => Numerals.hexDigits 2 byte.toNat := by
  rw [spelling, compact, display, String.toList_ofList, filter_intercalate_hexByte,
    List.map_flatMap]
  exact congrArg deviceId.bytes.flatMap (funext toLower_hexByte)

/-- A text is read as a device id exactly if it has the digits of the printed id, in either case. -/
theorem DeviceId.parse_eq_ok :
    parse text = .ok deviceId ↔ spelling text = spelling deviceId.display := by
  rw [spelling_display]
  obtain ⟨bytes, length⟩ := deviceId
  have read (pairs : (compact text).length = 64) :=
    Numerals.readBytes_iff (pairs.trans (by rw [length] : 64 = bytes.length * 2))
  unfold parse spelling
  constructor
  · intro parsed
    split_ifs at parsed with rejected
    push Not at rejected
    have bytesRead : Numerals.readBytes (compact text) 32 = bytes :=
      congrArg DeviceId.bytes (Outcome.ok.inj parsed)
    exact (read rejected.1).mp
      ⟨List.all_eq_true.mp rejected.2, (congrArg _ length).trans bytesRead⟩
  · intro spelled
    have pairs : (compact text).length = 64 := by
      have lengths := congrArg List.length spelled
      simpa [length, Function.comp_def] using lengths
    obtain ⟨digits, bytesRead⟩ := (read pairs).mpr spelled
    rw [if_neg (by simpa [pairs] using digits)]
    rw [length] at bytesRead
    simp only [bytesRead]

end

/-! ## Queries -/

namespace TrustDatabase

variable {database : TrustDatabase} {query : String} {deviceId : DeviceId}

/-- What a query stands for. -/
inductive Names (database : TrustDatabase) (query : String) : DeviceId → Prop
  | spelled {deviceId : DeviceId} (listed : database.lists deviceId = true)
      (digits : DeviceId.spelling query = DeviceId.spelling deviceId.display) :
      Names database query deviceId
  | called {peer : TrustedPeer}
      (unspelled : ∀ deviceId : DeviceId,
        DeviceId.spelling query ≠ DeviceId.spelling deviceId.display)
      (only : database.peers.filter (fun peer => peer.displayName = query) = [peer]) :
      Names database query peer.deviceId

theorem Names.lists (names : database.Names query deviceId) : database.lists deviceId = true := by
  cases names with
  | spelled listed digits => exact listed
  | @called peer unspelled only =>
      have member : peer ∈ database.peers.filter fun peer => peer.displayName = query := by
        simp [only]
      simp only [TrustDatabase.lists, List.any_eq_true, decide_eq_true_eq]
      exact ⟨peer, List.mem_of_mem_filter member, rfl⟩

theorem resolvePeer_eq_ok :
    database.resolvePeer query = .ok deviceId ↔ database.Names query deviceId := by
  unfold resolvePeer
  cases parsed : DeviceId.parse query with
  | ok spelled =>
      have digits := DeviceId.parse_eq_ok.mp parsed
      constructor
      · intro resolved
        dsimp only at resolved
        split_ifs at resolved with listed
        obtain rfl := Outcome.ok.inj resolved
        exact .spelled listed digits
      · rintro (⟨listed, same⟩ | ⟨unspelled, -⟩)
        · obtain rfl := Outcome.ok.inj (parsed.symm.trans (DeviceId.parse_eq_ok.mpr same))
          exact if_pos listed
        · exact absurd digits (unspelled spelled)
  | err _ | panic _ =>
      have unspelled (deviceId : DeviceId) :
          DeviceId.spelling query ≠ DeviceId.spelling deviceId.display :=
        fun same => by cases parsed.symm.trans (DeviceId.parse_eq_ok.mpr same)
      dsimp only
      constructor
      · intro resolved
        split at resolved
        · cases resolved
        · rename_i peer only
          obtain rfl := Outcome.ok.inj resolved
          exact .called unspelled only
        · cases resolved
      · rintro (⟨-, same⟩ | ⟨-, only⟩)
        · exact absurd same (unspelled deviceId)
        · rw [only]

end TrustDatabase
end Rflow
