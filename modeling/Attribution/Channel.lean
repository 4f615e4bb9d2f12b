import Attribution.Metadata
import Std.Data.ExtTreeMap

/-!
# Callback channels

Those who ask about containers receive the answers on a channel: a mailbox of bounded size that
keeps records in the order in which they were sent. Its owner takes records out and may close
it, which discards what it holds.
-/

namespace Attribution

/-- Channels are known by their names. -/
abbrev ChannelName := String

/-- A bounded mailbox. -/
structure Channel where
  /-- The most records that it holds. -/
  capacity : Nat
  /-- What it holds, the oldest first. -/
  contents : List Metadata := []
  /-- Whether its receiver is still there. -/
  isOpen : Bool := true
  deriving DecidableEq

namespace Channel

/-- The number of records that can be sent before the channel is full. -/
def room (channel : Channel) : Nat :=
  channel.capacity - channel.contents.length

/-- Puts a record behind those that are there. -/
def send (channel : Channel) (record : Metadata) : Channel :=
  { channel with contents := channel.contents ++ [record] }

/-- Leaves out the oldest records, at most as many as given. -/
def drop (channel : Channel) (count : Nat) : Channel :=
  { channel with contents := channel.contents.drop count }

/-- Takes the receiver away, with all that the channel holds. -/
def close (channel : Channel) : Channel :=
  { channel with contents := [], isOpen := false }

end Channel

/-- The channels there are. -/
abbrev Channels := Std.ExtTreeMap ChannelName Channel

end Attribution
