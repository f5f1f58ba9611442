import ReplyGateway.Locator

namespace ReplyGateway.ProxyAddress

/-- The scheme of a proxy whose text has none, or one that leads to no host. -/
def impliedScheme : List Char := "http://".toList

/-- Whether a locator has a host. -/
def hasHost (text : List Char) : Bool := (Locator.ofText? text).any fun l => l.host.isSome

/-- Whether a text names a proxy: a locator with a host, also without a scheme in front. -/
def isUsable (s : String) : Bool :=
  (Locator.ofText? s.toList).any fun l => l.host.isSome || hasHost (impliedScheme ++ s.toList)

/-- A text that is no locator names no proxy, not even with a scheme in front. -/
theorem isUsable_of_malformed {s : String} (h : Locator.ofText? s.toList = none) : isUsable s = false := by
  simp [isUsable, h]

end ReplyGateway.ProxyAddress
