import Rflow.Foundation.SlidingWindow
import Rflow.Runtime.Pairing

/-!
# The pairing limit over a run

The host asks its limiter about every pairing request.  The limiter keeps exactly the grants that
still count at its last call, so its two counts are the numbers of grants in the window that ends
there, and no window of a minute holds more grants than the limits allow.
-/

namespace Rflow

open Foundation SlidingWindow

/-- One call of `allow`: its time and the address the request came from. -/
abbrev PairingCall := Nat × IpAddr

namespace PairingRateLimiter

/-- The calls granted so far, and the limiter they left. -/
structure Service where
  granted : List PairingCall
  limiter : PairingRateLimiter

namespace Service

/-- Ask the limiter about one more call. -/
def ask (service : Service) (call : PairingCall) : Service where
  granted :=
    if (service.limiter.allow call.2 call.1).1 then service.granted ++ [call] else service.granted
  limiter := (service.limiter.allow call.2 call.1).2

end Service

/-- The calls one after the other, from the limiter of a host that starts. -/
def serve (calls : List PairingCall) : Service :=
  calls.foldl Service.ask { granted := [], limiter := { attempts := [] } }

theorem serve_concat (calls : List PairingCall) (call : PairingCall) :
    serve (calls ++ [call]) = (serve calls).ask call :=
  List.foldl_concat ..

/-- Whether a call comes from an address. -/
abbrev From (source : IpAddr) (call : PairingCall) : Prop := call.2 = source

/-- There is room for one more grant: fewer than 20 count in total, fewer than 5 from the source. -/
def Room (source : IpAddr) (counting : List PairingCall) : Prop :=
  counting.length < 20 ∧ counting.countP (From source) < 5

instance (source : IpAddr) (counting : List PairingCall) : Decidable (Room source counting) :=
  inferInstanceAs (Decidable (_ ∧ _))

variable {limiter : PairingRateLimiter} {service : Service} {source : IpAddr} {now before : Nat}
  {calls : List PairingCall} {call : PairingCall}

/-- What `allow` does with a queue in the order of its times. -/
theorem allow_eq (ordered : InOrder Prod.fst limiter.attempts) :
    limiter.allow source now =
      if Room source (recent Prod.fst window now limiter.attempts) then
        (true, { attempts := recent Prod.fst window now limiter.attempts ++ [(now, source)] })
      else
        (false, { attempts := recent Prod.fst window now limiter.attempts }) := by
  rw [allow, ordered.dropWhile_expired (by decide : 0 < window)]
  have sourceAttempts :
      ((recent Prod.fst window now limiter.attempts).filter fun attempt =>
        attempt.2 = source).length =
      (recent Prod.fst window now limiter.attempts).countP (From source) :=
    List.countP_eq_length_filter.symm
  by_cases room : Room source (recent Prod.fst window now limiter.attempts)
  · have fits := room
    rw [Room] at fits
    rw [if_pos room, if_neg (by omega)]
  · have full := room
    rw [Room] at full
    rw [if_neg room, if_pos (by omega)]

/-! ## The queue over a run -/

/-- The queue is made of the grants that count at a time. -/
def Exact (service : Service) (now : Nat) : Prop :=
  service.limiter.attempts = recent Prod.fst window now service.granted

/-- A call counts the grants of the window that ends with it. -/
theorem Exact.allow_eq (exact : Exact service before) (ordered : InOrder Prod.fst service.granted)
    (onward : before ≤ now) :
    service.limiter.allow source now =
      if Room source (recent Prod.fst window now service.granted) then
        (true, { attempts := recent Prod.fst window now service.granted ++ [(now, source)] })
      else
        (false, { attempts := recent Prod.fst window now service.granted }) := by
  have sorted : InOrder Prod.fst service.limiter.attempts := by
    rw [exact]
    exact ordered.sublist recent_sublist
  rw [PairingRateLimiter.allow_eq sorted, exact, recent_recent onward]

/-- A call is granted exactly when there is room in the window that ends with it. -/
theorem Exact.granted_ask (exact : Exact service before)
    (ordered : InOrder Prod.fst service.granted) (onward : before ≤ call.1) :
    (service.ask call).granted =
      if Room call.2 (recent Prod.fst window call.1 service.granted) then
        service.granted ++ [call]
      else
        service.granted := by
  rw [Service.ask, exact.allow_eq ordered onward]
  split <;> rfl

/-- One call keeps the queue exact. -/
theorem Exact.ask (exact : Exact service before) (ordered : InOrder Prod.fst service.granted)
    (onward : before ≤ call.1) : Exact (service.ask call) call.1 := by
  rw [Exact, exact.granted_ask ordered onward, Service.ask, exact.allow_eq ordered onward]
  by_cases room : Room call.2 (recent Prod.fst window call.1 service.granted)
  · have counts : recent Prod.fst window call.1 [call] = [call] := by
      rw [recent, List.filter_eq_self]
      simp [window]
    rw [if_pos room, if_pos room, recent_append, counts]
  · rw [if_neg room, if_neg room]

theorem granted_sublist (calls : List PairingCall) : (serve calls).granted.Sublist calls := by
  induction calls using List.reverseRecOn with
  | nil => exact List.Sublist.refl _
  | append_singleton calls call induction =>
      rw [serve_concat, Service.ask]
      by_cases allowed : ((serve calls).limiter.allow call.2 call.1).1
      · rw [if_pos allowed]
        exact induction.append_right [call]
      · rw [if_neg allowed]
        exact induction.trans (List.sublist_append_left _ _)

/-- After a run the queue is made of the grants that count at its last call. -/
theorem exact_serve (ordered : InOrder Prod.fst calls) (onward : ∀ past ∈ calls, past.1 ≤ now) :
    ∃ last ≤ now, Exact (serve calls) last := by
  induction calls using List.reverseRecOn generalizing now with
  | nil => exact ⟨0, Nat.zero_le now, rfl⟩
  | append_singleton calls call induction =>
      obtain ⟨sorted, before⟩ := inOrder_concat.mp ordered
      obtain ⟨last, earlier, exact⟩ := induction sorted before
      rw [serve_concat]
      exact ⟨call.1, onward call (by simp), exact.ask (sorted.sublist (granted_sublist _)) earlier⟩

/-- The next call of a run is granted exactly when there is room in the window that ends with it. -/
theorem granted_concat (ordered : InOrder Prod.fst (calls ++ [call])) :
    (serve (calls ++ [call])).granted =
      if Room call.2 (recent Prod.fst window call.1 (serve calls).granted) then
        (serve calls).granted ++ [call]
      else
        (serve calls).granted := by
  obtain ⟨sorted, before⟩ := inOrder_concat.mp ordered
  obtain ⟨last, earlier, exact⟩ := exact_serve sorted before
  rw [serve_concat, exact.granted_ask (sorted.sublist (granted_sublist _)) earlier]

/-- Each grant came when the grants it is counted with were below both limits. -/
theorem limited_granted (ordered : InOrder Prod.fst calls) :
    Limited Prod.fst window 20 (fun _ => True) (serve calls).granted ∧
      ∀ source, Limited Prod.fst window 5 (From source) (serve calls).granted := by
  induction calls using List.reverseRecOn with
  | nil => exact ⟨limited_nil, fun _ => limited_nil⟩
  | append_singleton calls call induction =>
      obtain ⟨total, perSource⟩ := induction (inOrder_concat.mp ordered).1
      rw [granted_concat ordered]
      by_cases room : Room call.2 (recent Prod.fst window call.1 (serve calls).granted)
      · rw [if_pos room]
        refine ⟨limited_concat.mpr ⟨total, fun _ => ?_⟩, fun source => ?_⟩
        · simpa using room.1
        · refine limited_concat.mpr ⟨perSource source, ?_⟩
          rintro rfl
          exact room.2
      · rw [if_neg room]
        exact ⟨total, perSource⟩

/-- Over calls in the order of their times the limiter is an exact sliding window: no window of a
minute holds more than 20 grants, or more than 5 of one source, and a call is refused only when so
many already count. -/
theorem allow_exact_window (calls : List PairingCall) (ordered : InOrder Prod.fst calls) :
    (∀ start, (within Prod.fst window start (serve calls).granted).length ≤ 20 ∧
      ∀ source, (within Prod.fst window start (serve calls).granted).countP (From source) ≤ 5) ∧
      ∀ front call, front ++ [call] <+: calls →
        (((serve front).limiter.allow call.2 call.1).1 = false ↔
          20 ≤ (recent Prod.fst window call.1 (serve front).granted).length ∨
            5 ≤ (recent Prod.fst window call.1 (serve front).granted).countP (From call.2)) := by
  obtain ⟨total, perSource⟩ := limited_granted ordered
  have sorted : InOrder Prod.fst (serve calls).granted := ordered.sublist (granted_sublist calls)
  refine ⟨fun start => ⟨?_, fun source => ?_⟩, fun front call isPrefix => ?_⟩
  · simpa using total.countP_within_le sorted start
  · exact (perSource source).countP_within_le sorted start
  · obtain ⟨front_sorted, before⟩ :=
      inOrder_concat.mp (ordered.sublist isPrefix.sublist)
    obtain ⟨last, earlier, exact⟩ := exact_serve front_sorted before
    rw [exact.allow_eq (front_sorted.sublist (granted_sublist front)) earlier]
    by_cases room : Room call.2 (recent Prod.fst window call.1 (serve front).granted)
    · have fits := room
      rw [Room] at fits
      rw [if_pos room]
      simp only [Bool.true_eq_false, false_iff]
      omega
    · have full := room
      rw [Room] at full
      rw [if_neg room]
      simp only [true_iff]
      omega

/-- Five calls of one source at once, one just before the minute is over, one when it is. -/
def busyMinute : List PairingCall :=
  (List.replicate 5 0 ++ [window - 1, window]).map fun time => (time, .v4 1)

theorem allow_exact_window_busyMinute :
    (serve busyMinute).granted =
        ((List.replicate 5 0 ++ [window]).map fun time => (time, .v4 1)) ∧
      (within Prod.fst window 1 (serve busyMinute).granted).countP (From (.v4 1)) ≤ 5 ∧
      5 ≤ (recent Prod.fst window (window - 1) (serve (busyMinute.take 5)).granted).countP
        (From (.v4 1)) := by
  have ordered : InOrder Prod.fst busyMinute := by decide +kernel
  obtain ⟨bounded, refused⟩ := allow_exact_window busyMinute ordered
  refine ⟨by decide +kernel, (bounded 1).2 (.v4 1), ?_⟩
  have isPrefix : busyMinute.take 5 ++ [(window - 1, .v4 1)] <+: busyMinute :=
    ⟨[(window, .v4 1)], rfl⟩
  obtain total | perSource :=
    (refused (busyMinute.take 5) (window - 1, .v4 1) isPrefix).mp (by decide +kernel)
  · exact absurd total (by decide +kernel)
  · exact perSource

end PairingRateLimiter
end Rflow
