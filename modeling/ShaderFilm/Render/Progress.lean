import ShaderFilm.Log.Event
import ShaderFilm.Number.Text

/-!
# Progress reports
-/

namespace ShaderFilm.Render

/-- Reports after every `interval` frames and after the last one. -/
structure Progress where
  total : UInt64
  interval : UInt64
  interval_pos : 0 < interval

namespace Progress

/-- An interval of zero counts as one. -/
def ofInterval (total interval : UInt64) : Progress :=
  if h : interval = 0 then ⟨total, 1, by decide⟩
  else ⟨total, interval, by
    rw [UInt64.lt_iff_toNat_lt]
    have : interval.toNat ≠ 0 := fun h0 => h (UInt64.toNat.inj h0)
    simpa using Nat.pos_of_ne_zero this⟩

/-- The share of the frames that is done; all of it where there are none. -/
def fraction (p : Progress) (completed : UInt64) : Float :=
  if p.total = 0 then 1.0 else (min completed p.total).toFloat / p.total.toFloat

/-- Whether a report is due. -/
def isDue (p : Progress) (completed : UInt64) : Bool :=
  0 < completed && (completed % p.interval == 0 || completed == p.total)

/-- The report on the given number of frames. -/
def report (p : Progress) (completed : UInt64) : Log.Event :=
  ⟨.info, "rendering", [("frame", toString completed.toNat), ("total", toString p.total.toNat),
    ("percent", Number.writeTenths (p.fraction completed * 100.0))]⟩

/-- The reports that are due once the given number of frames is done. -/
def reports (p : Progress) (completed : UInt64) : List Log.Event :=
  if p.isDue completed then [p.report completed] else []

end Progress

end ShaderFilm.Render
