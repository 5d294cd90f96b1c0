import SysExporter.Scrape.Timer

namespace SysExporter.Scrape

namespace Timer

-- How a timer stands to its instant. It goes off at the next tick, at once if the
-- instant is past, and where the instant lies beyond the last tick it goes off there.
structure Rounds (epoch : Nat) : Prop where
  wake_tick {n : Nat} : n ≤ lastTick → wake epoch (epoch + tick * n) = epoch + tick * n
  wake_of_le {t : Nat} : t ≤ epoch → wake epoch t = epoch
  le_wake {t : Nat} : t ≤ epoch + tick * lastTick → t ≤ wake epoch t
  wake_lt {t : Nat} : epoch ≤ t → wake epoch t < t + tick
  wake_of_lt {t : Nat} : epoch + tick * lastTick < t → wake epoch t = epoch + tick * lastTick

theorem rounds (epoch : Nat) : Rounds epoch := by
  constructor
  case le_wake =>
    intro t ht
    have htick : 0 < tick := by decide
    have hceil := Nat.lt_mul_div_succ (t + (tick - 1) - epoch) htick
    rw [Nat.mul_add] at hceil
    rw [wake, ticks]
    rcases Nat.le_total ((t + (tick - 1) - epoch) / tick) lastTick with hle | hle
    · rw [Nat.min_eq_left hle]
      omega
    · rw [Nat.min_eq_right hle]
      exact ht
  all_goals
    intro t ht
    simp only [wake, ticks, tick] at ht ⊢
    omega

theorem ticks_le_iff {epoch t n : Nat} : ticks epoch t ≤ n ↔ wake epoch t ≤ epoch + tick * n := by
  have htick : 0 < tick := by decide
  rw [wake, Nat.add_le_add_iff_left, Nat.mul_le_mul_left_iff htick]

-- Before the last tick a timer goes off by a tick exactly if its instant has come.
theorem ticks_le_iff_le {epoch t n : Nat} (hn : n < lastTick) :
    ticks epoch t ≤ n ↔ t ≤ epoch + tick * n := by
  simp only [ticks, tick]
  omega

end Timer

end SysExporter.Scrape
