import PneumaLab.Library.SignFlips
import PneumaLab.ResamplingNull.Analysis.RosterTails

namespace PneumaLab.ResamplingNull
open MassFunction SignFlips

section Quantile

def Covers (population : Multiset ℚ) (v : ℚ) : Prop :=
  95 * population.card ≤ 100 * population.countP (· ≤ v)

end Quantile

section Masses

end Masses

section Rosters

end Rosters

end PneumaLab.ResamplingNull
