import FirewallProbe.Config.Document
import FirewallProbe.Probe.Plan
import FirewallProbe.Proofs.Config.Validation

/-!
# Deadlines

A probe must be over when its timeout has passed since it started, and is waited for a second
longer.  The seconds of a point in time have 63 bits and those of a duration 64, so a timeout may be
too long for one or both of the sums.  The rules about a configuration do not ask for a timeout
that fits: where one is accepted, so is any longer one.

## Key results

- `Instant.add?_ofSeconds` / `Duration.add?_ofSeconds`: when the seconds of a sum fit
- `Deadlines.of?_ofSeconds`: the deadlines of a probe
- `Config.deadlines_isSome_iff`: which probes of an accepted configuration have deadlines
-/

namespace FirewallProbe

/-- Durations of whole seconds add up if the sum has 64 bits. -/
theorem Duration.add?_ofSeconds (m n : Nat) :
    (ofSeconds m).add? (ofSeconds n) =
      if m + n < 0x10000000000000000 then some (ofSeconds (m + n)) else none := by
  have hsum : m * 1000000000 + n * 1000000000 = (m + n) * 1000000000 := by omega
  have hof : of 0 ((m + n) * 1000000000) = ofSeconds (m + n) := by
    simp [of, ofSeconds]
  simp only [add?, toNanoseconds, ofSeconds, Nat.add_zero, hsum] at hof ⊢
  rw [hof]

/-- Whole seconds are added to an instant if the sum has 63 bits. -/
theorem Instant.add?_ofSeconds (start : Instant) (n : Nat) :
    start.add? (.ofSeconds n) =
      if start.seconds + n < 0x8000000000000000 then
        some ⟨start.seconds + n, start.nanoseconds, start.nanoseconds_lt⟩
      else none := by
  -- Whole seconds carry nothing over.
  have hcarry : (start.nanoseconds / 1000000000 : Nat) = 0 := Nat.div_eq_of_lt start.nanoseconds_lt
  have hrest : start.nanoseconds % 1000000000 = start.nanoseconds :=
    Nat.mod_eq_of_lt start.nanoseconds_lt
  simp [add?, Duration.ofSeconds, hcarry, hrest]

/-- A probe that takes `n` seconds has deadlines if the seconds of both fit. -/
theorem Deadlines.of?_ofSeconds (started : Instant) (n : Nat) :
    Deadlines.of? started (.ofSeconds n) =
      if started.seconds + n < 0x8000000000000000 ∧ n + 1 < 0x10000000000000000 then
        some ⟨⟨started.seconds + n, started.nanoseconds, started.nanoseconds_lt⟩,
          .ofSeconds (n + 1)⟩
      else none := by
  rw [of?, joinGrace, started.add?_ofSeconds, Duration.add?_ofSeconds]
  by_cases hstart : started.seconds + n < 0x8000000000000000 <;>
    by_cases hjoin : n + 1 < 0x10000000000000000 <;> simp [hstart, hjoin]

namespace Config

/-- The configuration `c` with `n` seconds for its probes. -/
def withTimeout (c : Config) (n : Nat) : Config :=
  { c with scrape := { c.scrape with timeout := n } }

/-- `validate` accepts every timeout that is longer than an accepted one. -/
theorem validate_withTimeout {c : Config} (h : c.validate = .ok ()) {n : Nat}
    (hn : c.scrape.timeout ≤ n) : (c.withTimeout n).validate = .ok () := by
  rw [validate_eq_ok_iff, ScrapeSettings.validate_eq_ok_iff] at h ⊢
  obtain ⟨hserver, ⟨htimeout, hrequest, hle, hpage⟩, htargets⟩ := h
  exact ⟨hserver, ⟨Nat.lt_of_lt_of_le htimeout hn, hrequest, Nat.le_trans hle hn, hpage⟩, htargets⟩

/-- A probe that starts at a time that is not negative has deadlines if and only if its timeout ends
within 63 bits of seconds, which `validate` does not ask for. -/
theorem deadlines_isSome_iff {c : Config} (h : c.validate = .ok ()) (started : Instant)
    (hstarted : 0 ≤ started.seconds) :
    ((started.add? c.timeout).isSome ↔
        started.seconds + c.scrape.timeout < 0x8000000000000000) ∧
      ((c.timeout.add? joinGrace).isSome ↔ c.scrape.timeout + 1 < 0x10000000000000000) ∧
      ((Deadlines.of? started c.timeout).isSome ↔
        started.seconds + c.scrape.timeout < 0x8000000000000000) ∧
      ∀ n, c.scrape.timeout ≤ n → (c.withTimeout n).validate = .ok () := by
  refine ⟨?_, ?_, ?_, fun n hn => validate_withTimeout h hn⟩
  · rw [timeout, started.add?_ofSeconds, Option.isSome_ite]
  · rw [timeout, joinGrace, Duration.add?_ofSeconds, Option.isSome_ite]
  · rw [timeout, Deadlines.of?_ofSeconds, Option.isSome_ite]
    omega

/-- The default settings give a probe that starts at 1000 seconds its deadlines. -/
theorem deadlines_isSome_default :
    ({} : Config).validate = .ok () ∧ (0 : Int) ≤ 1000 ∧
      (Deadlines.of? ⟨1000, 0, by decide⟩ ({} : Config).timeout).isSome := by
  have hvalid : ({} : Config).validate = .ok () := by decide +kernel
  exact ⟨hvalid, by decide,
    (deadlines_isSome_iff hvalid ⟨1000, 0, by decide⟩ (by decide)).2.2.1.2
      (by decide)⟩

/-- `validate` accepts the longest timeout that can be written, and no probe has deadlines with
it. -/
theorem validate_longest_timeout :
    ∃ c, parse "{ scrape: { timeout_secs: 18446744073709551615 } }" = .ok c ∧
      c.validate = .ok () ∧ c.timeout.add? joinGrace = none ∧
        ∀ started : Instant, 0 ≤ started.seconds →
          started.add? c.timeout = none ∧ Deadlines.of? started c.timeout = none := by
  have hread :
      ((parse "{ scrape: { timeout_secs: 18446744073709551615 } }").toOption.map
        (·.scrape.timeout)) = some 18446744073709551615 := by
    decide +kernel
  obtain ⟨c, hparse, htimeout⟩ := Option.map_eq_some_iff.1 hread
  rw [Except.toOption_eq_some_iff] at hparse
  refine ⟨c, hparse, validate_of_parse hparse, ?_, fun started hstarted => ⟨?_, ?_⟩⟩
  · rw [timeout, joinGrace, htimeout, Duration.add?_ofSeconds]
    rfl
  · rw [timeout, htimeout, started.add?_ofSeconds, if_neg (by omega)]
  · rw [timeout, htimeout, Deadlines.of?_ofSeconds, if_neg (by omega)]

end Config
end FirewallProbe
