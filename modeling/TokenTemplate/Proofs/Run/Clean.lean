import TokenTemplate.Proofs.Output.Tidy
import TokenTemplate.Proofs.Run.Growth

/-!
# Receivers without empty texts

No run brings an empty text into a receiver. As with items that stay (`TokenTemplate.Store.Grows`), this
holds of every store that a run passes through, however the run ends and whatever its payloads do: texts
are written by one action, which drops the empty ones, and all else that is written are marks and copies of
receivers. So what a receiver holds at any time has tidy lines, and there is no line only if there is no
text.
-/

namespace TokenTemplate

theorem Store.Clean.allocateReceiver {s : Store} (h : s.Clean) : (s.allocateReceiver []).2.Clean :=
  s.grows_allocateReceiver.clean h

end TokenTemplate
