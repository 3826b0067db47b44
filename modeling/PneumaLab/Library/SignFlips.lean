import PneumaLab.Library.MassFunction

namespace SignFlips
open MassFunction

variable {K : Type} [CommRing K]

section Equal
variable (w : K)

end Equal

end SignFlips
