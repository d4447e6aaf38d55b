import AccessFeed.Failure

/-! The sizes of a feed's buffers and whether it starts with what is already visible. -/
namespace AccessFeed

/-- How a feed buffers, and what it starts with. -/
structure WatchOptions where
  /-- Slots between the dispatcher and the relay. -/
  bufferSize : UInt64
  /-- Slots between the relay and the consumer. -/
  outputBufferSize : UInt64
  /-- Start with every visible project when the subscriber does not say otherwise. -/
  includeExisting : Bool
  deriving DecidableEq

namespace WatchOptions

/-- The names of the fields where options are written down, in their order. -/
def fieldNames : List String := ["buffer_size", "output_buffer_size", "include_existing"]

/-- The values that hold where nothing else is said. -/
def standard : WatchOptions := ⟨1000, 1, false⟩

instance : Inhabited WatchOptions := ⟨standard⟩

/-- Above this many slots an intake is allowed but reported. -/
def largeBuffer : Nat := 100000

/-- A channel has at least one slot and at most the limit of all channels. -/
def checkChannel (key : String) (size : UInt64) : Except SettingsError Unit :=
  if size = 0 then .error (.emptyChannel key)
  else if channelLimit < size.toNat then .error (.oversizedChannel key size)
  else .ok ()

/-- Both channels must be possible; the intake is checked first. -/
def check (options : WatchOptions) : Except SettingsError Unit := do
  checkChannel "watch.buffer_size" options.bufferSize
  checkChannel "watch.output_buffer_size" options.outputBufferSize

theorem checkChannel_eq_ok_iff {key : String} {size : UInt64} :
    checkChannel key size = .ok () ↔ 0 < size.toNat ∧ size.toNat ≤ channelLimit := by
  have positive : size = 0 ↔ size.toNat = 0 := UInt64.toNat_inj.symm
  unfold checkChannel
  by_cases empty : size = 0
  · simp [empty]
  · have room : 0 < size.toNat := by
      rw [positive] at empty
      omega
    by_cases excess : channelLimit < size.toNat
    · simp [empty, excess, Nat.not_le.mpr excess]
    · simp [empty, excess, room, Nat.not_lt.mp excess]

/-- Options are possible exactly if both sizes are within the bounds of a channel. -/
theorem check_eq_ok_iff {options : WatchOptions} :
    options.check = .ok () ↔
      (0 < options.bufferSize.toNat ∧ options.bufferSize.toNat ≤ channelLimit) ∧
        0 < options.outputBufferSize.toNat ∧ options.outputBufferSize.toNat ≤ channelLimit := by
  rw [← @checkChannel_eq_ok_iff "watch.buffer_size",
    ← @checkChannel_eq_ok_iff "watch.output_buffer_size", check]
  cases checkChannel "watch.buffer_size" options.bufferSize with
  | error cause => simp [bind, Except.bind]
  | ok => simp [bind, Except.bind]

def isLarge (options : WatchOptions) : Bool := largeBuffer < options.bufferSize.toNat

def shown (options : WatchOptions) : String :=
  "WatchConfig \x7b buffer_size: " ++ toString options.bufferSize
    ++ ", output_buffer_size: " ++ toString options.outputBufferSize
    ++ ", include_existing: " ++ toString options.includeExisting ++ " \x7d"

end WatchOptions

end AccessFeed
