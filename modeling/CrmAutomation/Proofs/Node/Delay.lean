import CrmAutomation.Proofs.Node.Effect
import CrmAutomation.Proofs.Numeric.Rounding
import CrmAutomation.Proofs.Schema.Reader
import Mathlib.Algebra.Group.Int.Defs

/-!
Delays.

Whatever a delay is given as, what is asked for is a number of milliseconds that is not negative:
what cannot be read counts as nothing, and what is beyond every double as the longest delay there
is. Only an integer too large to be a double stops a delay, and settings whose longest delay has no
number of milliseconds do. Otherwise the delay is as long as it was asked for or as the settings
allow, and that much time passes.
-/

namespace CrmAutomation

open EngineM Numeric Schema

/-! ### Settings -/

namespace Settings

variable {s : Settings} {most : ℤ}

/-- The settings were read from something given for them. -/
def Accepted (s : Settings) : Prop := ∃ given, ofFields given = .ok s

/-- Settings that are loaded were read. -/
lemma accepted_of_load {arguments : Fields} {environment : EnvFile.Variables} {file : Option String}
    {made : List Directory.Place}
    (h : load arguments environment file = .ok (.ok (s, made))) : s.Accepted := by
  have hmap {given : Fields} {places : List Directory.Place}
      (h : (ofFields given).map (·, places) = .ok (s, made)) : s.Accepted := by
    obtain ⟨s', hs, hpair⟩ := Checked.map_eq_ok.mp h
    cases hpair
    exact ⟨given, hs⟩
  unfold load at h
  dsimp only at h
  split at h
  · exact hmap (Except.ok.inj h)
  · exact hmap (Except.ok.inj h)
  · cases h

lemma le_of_numberAtLeast {v : Value} {x : Binary64} (h : numberAtLeast 0 number v = .ok x) :
    (Binary64.ofInt 0).le x = true := by
  obtain ⟨y, -, hy⟩ := Checked.bind_eq_ok.mp h
  split at hy
  · rename_i hle
    cases hy
    exact hle
  · cases hy

lemma maxDelaySeconds_of_accepted (h : s.Accepted) :
    (Binary64.ofInt 0).le s.maxDelaySeconds = true := by
  obtain ⟨given, h⟩ := h
  unfold ofFields at h
  dsimp only at h
  iterate 7
    rw [Checked.seq_eq_ok] at h
    obtain ⟨_, _, h, -, rfl⟩ := h
  rw [Checked.seq_eq_ok] at h
  obtain ⟨_, x, h, hx, rfl⟩ := h
  iterate 6
    rw [Checked.seq_eq_ok] at h
    obtain ⟨_, _, h, -, rfl⟩ := h
  obtain ⟨_, -, rfl⟩ := Checked.map_eq_ok.mp h
  show (Binary64.ofInt 0).le x = true
  rw [Field.withDefault_eq] at hx
  split at hx
  · exact le_of_numberAtLeast (Checked.within_eq_ok.mp hx)
  · rw [← Checked.ok.inj hx]
    decide +kernel

lemma maxDelayMs_nonneg (h : s.Accepted) (hmost : s.maxDelayMs = .ok most) : 0 ≤ most := by
  have hzero : Binary64.ofInt 0 = .zero := by decide +kernel
  have hle := maxDelaySeconds_of_accepted h
  rw [hzero] at hle
  exact Binary64.truncate?_mul_nonneg (k := 1000) hle (Binary64.truncate_eq_ok.mp hmost)

end Settings

namespace Node

open Numeric.Binary64

/-! ### Amounts -/

/-- The amount that counts: it is not negative, and what cannot be waited for counts as nothing. -/
def Amount.counted : Amount → Binary64
  | .number x => if x.isFinite && !x.lt .zero then x else .zero
  | .unreadable | .huge => .zero

/-- The milliseconds that a delay asks for. -/
def DelayParams.requested (p : DelayParams) (scope : Scope) : ℤ :=
  requestedMs (amountOf scope.value p.amount).counted p.unit

/-- A delay given as an integer that is too large for a double. -/
def DelayParams.Huge (p : DelayParams) : Prop := ∃ n, p.amount = .int n ∧ hugeFrom ≤ n.natAbs

/-- What a delay reports of the time that it took and the time that it was to take. -/
def waited (delay requested : ℤ) : Fields :=
  [("delayed", .bool true), ("delay_ms", .int delay), ("requested_ms", .int requested)]

variable {a : Amount} {p : DelayParams} {scope : Scope} {e e' : Engine} {most : ℤ} {node : Node}
  {r : NodeResult}

lemma zero_le_counted (a : Amount) : Binary64.zero.le a.counted = true := by
  have hzero : Binary64.zero.le .zero = true := by decide +kernel
  cases a with
  | unreadable | huge => exact hzero
  | number x =>
    rw [Amount.counted]
    split
    · rename_i h
      rw [Bool.and_eq_true, Bool.not_eq_true'] at h
      exact Binary64.le_of_not_lt h.1 rfl h.2
    · exact hzero

lemma requestedMs_nonneg {x : Binary64} (hx : Binary64.zero.le x = true) (unit : String) :
    0 ≤ requestedMs x unit := by
  unfold requestedMs
  split
  · rename_i n hn
    exact truncate?_mul_nonneg hx hn
  · decide

lemma requested_nonneg (p : DelayParams) (scope : Scope) : 0 ≤ p.requested scope :=
  requestedMs_nonneg (zero_le_counted _) _

/-- Only an integer is given as too large a number. What a template stands for is a text. -/
lemma amountOf_huge_iff (scope : Value) : amountOf scope p.amount = .huge ↔ p.Huge := by
  unfold DelayParams.Huge
  cases p.amount with
  | int n =>
    have hfinite : (ofInt n).isFinite = true ↔ n.natAbs < hugeFrom := isFinite_ofInt_iff
    rw [amountOf]
    split
    · rename_i h
      have hless := hfinite.mp h
      simp
      omega
    · rename_i h
      have hmore := mt hfinite.mpr h
      simp
      omega
  | text s =>
    rw [amountOf]
    split
    · simp
    · split <;> simp
  | null | bool _ | float _ | list _ | object _ => simp [amountOf]

lemma perform_settleAmount (h : a ≠ .huge) (e : Engine) :
    ∃ k, (settleAmount a).perform e = (.ok a.counted, k) ∧ k.clock = e.clock ∧
      k.settings = e.settings := by
  cases a with
  | huge => exact absurd rfl h
  | unreadable => exact ⟨_, rfl, rfl, rfl⟩
  | number x =>
    rw [settleAmount, Amount.counted]
    cases x.isFinite
    · exact ⟨_, rfl, rfl, rfl⟩
    · cases x.lt .zero
      · exact ⟨_, rfl, rfl, rfl⟩
      · exact ⟨_, rfl, rfl, rfl⟩

/-! ### Delays -/

lemma perform_runDelay (hp : ¬p.Huge) (hmost : e.settings.maxDelayMs = .ok most) (scope : Scope) :
    ∃ e', (runDelay p scope).perform e =
        (.ok (.done (waited (min (p.requested scope) most) (p.requested scope))), e') ∧
      e'.clock = e.clock + min (p.requested scope) most := by
  obtain ⟨k, hk, hclock, hsettings⟩ :=
    perform_settleAmount (mt (amountOf_huge_iff scope.value).mp hp) e
  rw [← hsettings] at hmost
  have hlimit : (ofExcept .noInteger k.settings.maxDelayMs).perform k = (.ok most, k) :=
    perform_ofExcept_ok.mpr ⟨hmost, rfl⟩
  have hread : settings.perform k = (.ok k.settings, k) := rfl
  unfold runDelay
  rw [perform_bind_of_ok hk, perform_bind_of_ok hread, perform_bind_of_ok hlimit]
  dsimp only
  split
  · exact ⟨_, rfl, congrArg (· + _) hclock⟩
  · exact ⟨_, rfl, congrArg (· + _) hclock⟩

lemma perform_runDelay_error
    (h : p.Huge ∨ ∃ fault, e.settings.maxDelayMs = .error fault) (scope : Scope) :
    ∃ c e', (runDelay p scope).perform e = (.error (.crash c), e') ∧ e'.clock = e.clock := by
  unfold runDelay
  by_cases hp : p.Huge
  · have hhuge := (amountOf_huge_iff scope.value).mpr hp
    rw [hhuge]
    exact ⟨_, _, rfl, rfl⟩
  · obtain ⟨fault, hfault⟩ := h.resolve_left hp
    obtain ⟨k, hk, hclock, hsettings⟩ :=
      perform_settleAmount (mt (amountOf_huge_iff scope.value).mp hp) e
    rw [← hsettings] at hfault
    have hlimit : (ofExcept .noInteger k.settings.maxDelayMs).perform k =
        (.error (.crash (.noInteger fault)), k) :=
      perform_ofExcept_error.mpr ⟨fault, hfault, rfl, rfl⟩
    have hread : settings.perform k = (.ok k.settings, k) := rfl
    rw [perform_bind_of_ok hk, perform_bind_of_ok hread, perform_bind_of_error hlimit]
    exact ⟨_, _, rfl, hclock⟩

lemma perform_delay (hp : node.params? = some (.delay p)) (hhuge : ¬p.Huge)
    (hmost : e.settings.maxDelayMs = .ok most) (flow : Flow) (scope : Scope) :
    ∃ e', (node.execute flow scope).perform e =
        (.ok (.done (waited (min (p.requested scope) most) (p.requested scope))), e') ∧
      e'.clock = e.clock + min (p.requested scope) most := by
  obtain ⟨e', hrun, hclock⟩ := perform_runDelay hhuge hmost scope
  rw [perform_execute hp]
  exact ⟨e', onFailure_of_ok hrun, hclock⟩

lemma perform_delay_error (hp : node.params? = some (.delay p))
    (h : p.Huge ∨ ∃ fault, e.settings.maxDelayMs = .error fault) (flow : Flow) (scope : Scope) :
    ∃ c e', (node.execute flow scope).perform e = (.ok (.failed (.failure (.crash c))), e') ∧
      e'.clock = e.clock := by
  obtain ⟨c, k, hrun, hclock⟩ := perform_runDelay_error h scope
  rw [perform_execute hp, work, onFailure_of_error hrun]
  exact ⟨c, _, rfl, hclock⟩

/-- **A delay**, for settings that were accepted: it never fails outside of its result. It is done
exactly if it is not given as an integer too large for a double and the longest delay of the
settings is a number of milliseconds. Then it took the time that it was asked for, or the longest
delay if that is shorter, and this time is not negative. Otherwise it crashed and took none. -/
theorem delay_outcome (hp : node.params? = some (.delay p)) (hs : e.settings.Accepted)
    (flow : Flow) (scope : Scope) :
    ∃ r e', (node.execute flow scope).perform e = (.ok r, e') ∧
      (r.succeeded = true ↔ ¬p.Huge ∧ ∃ most, e.settings.maxDelayMs = .ok most) ∧
      (r.succeeded = true →
        ∃ delay requested most, r.output = .object (waited delay requested) ∧
          requested = p.requested scope ∧ e.settings.maxDelayMs = .ok most ∧
          delay = min requested most ∧ 0 ≤ delay ∧ delay ≤ requested ∧ delay ≤ most ∧
          e'.clock = e.clock + delay) ∧
      (r.succeeded = false →
        (∃ c, r.fault? = some (.failure (.crash c))) ∧ e'.clock = e.clock) := by
  rcases hmax : e.settings.maxDelayMs with fault | most
  · obtain ⟨c, e', hrun, hclock⟩ := perform_delay_error hp (.inr ⟨fault, hmax⟩) flow scope
    exact ⟨_, e', hrun, iff_of_false Bool.false_ne_true (by simp),
      fun h => absurd h Bool.false_ne_true, fun _ => ⟨⟨c, rfl⟩, hclock⟩⟩
  by_cases hhuge : p.Huge
  · obtain ⟨c, e', hrun, hclock⟩ := perform_delay_error hp (.inl hhuge) flow scope
    exact ⟨_, e', hrun, iff_of_false Bool.false_ne_true (fun h => h.1 hhuge),
      fun h => absurd h Bool.false_ne_true, fun _ => ⟨⟨c, rfl⟩, hclock⟩⟩
  · obtain ⟨e', hrun, hclock⟩ := perform_delay hp hhuge hmax flow scope
    have hasked : 0 ≤ p.requested scope := requested_nonneg p scope
    have hmost : 0 ≤ most := Settings.maxDelayMs_nonneg hs hmax
    refine ⟨_, e', hrun, iff_of_true rfl ⟨hhuge, most, rfl⟩, fun _ => ?_, fun h => ?_⟩
    · exact ⟨min (p.requested scope) most, p.requested scope, most, rfl, rfl, rfl, rfl,
        by omega, by omega, by omega, hclock⟩
    · cases h

/-- A delay of a number of hours. -/
def pausing (hours : ℤ) : Node where
  id := "d"
  type := some "delay"
  data := [("delay_value", .int hours), ("delay_unit", .text "hours")]

/-- Settings that put no end to delays. -/
def endless : Settings := { maxDelaySeconds := .infinite false }

/-- Of two hours, ten seconds are waited by default. So many hours that they are no double are not
waited for at all, and no hour is where there is no end to delays: these nodes fail. -/
theorem delay_outcome_pausing :
    (∃ r e', ((pausing 2).execute {} { execution := "x" }).perform {} = (.ok r, e') ∧
        r.output = .object (waited 10000 7200000) ∧ e'.clock = 1709294400000 + 10000) ∧
      (∃ r e', ((pausing (10 ^ 400)).execute {} { execution := "x" }).perform {} = (.ok r, e') ∧
        r.succeeded = false ∧ e'.clock = 1709294400000) ∧
      ∃ r e', ((pausing 2).execute {} { execution := "x" }).perform { settings := endless } =
          (.ok r, e') ∧ r.succeeded = false := by
  have hs : ({} : Engine).settings.Accepted := ⟨[], by decide +kernel⟩
  have hendless : endless.Accepted := ⟨[("max_delay_seconds", .text "inf")], by decide +kernel⟩
  have hmost : ({} : Engine).settings.maxDelayMs = .ok 10000 := by decide +kernel
  have hparams (hours : ℤ) :
      (pausing hours).params? = some (.delay ⟨.int hours, "hours"⟩) := rfl
  refine ⟨?_, ?_, ?_⟩
  · obtain ⟨r, e', hrun, hdone, hout, -⟩ := delay_outcome (hparams 2) hs {} { execution := "x" }
    have hfits : ¬DelayParams.Huge ⟨.int 2, "hours"⟩ := by
      rintro ⟨n, hn, hhuge⟩
      cases hn
      exact absurd hhuge (by decide +kernel)
    obtain ⟨delay, requested, most, hr, hasked, hmax, hdelay, -, -, -, hclock⟩ :=
      hout (hdone.mpr ⟨hfits, 10000, hmost⟩)
    have hhours : DelayParams.requested ⟨.int 2, "hours"⟩ { execution := "x" } = 7200000 := by
      decide +kernel
    cases hmost.symm.trans hmax
    rw [hasked, hhours] at hdelay hr
    rw [hdelay] at hr hclock
    exact ⟨r, e', hrun, hr, hclock⟩
  · obtain ⟨r, e', hrun, hdone, -, hfail⟩ :=
      delay_outcome (hparams (10 ^ 400)) hs {} { execution := "x" }
    have hhuge : DelayParams.Huge ⟨.int (10 ^ 400), "hours"⟩ := ⟨_, rfl, by decide +kernel⟩
    have hr : r.succeeded = false := Bool.eq_false_iff.mpr fun hr => (hdone.mp hr).1 hhuge
    exact ⟨r, e', hrun, hr, (hfail hr).2⟩
  · obtain ⟨r, e', hrun, hdone, -, -⟩ :=
      delay_outcome (hparams 2) (e := { settings := endless }) hendless {} { execution := "x" }
    refine ⟨r, e', hrun, Bool.eq_false_iff.mpr fun hr => ?_⟩
    obtain ⟨-, most, hmax⟩ := hdone.mp hr
    have hnone : endless.maxDelayMs = .error .infinity := by decide +kernel
    cases hnone.symm.trans hmax

end Node

end CrmAutomation
