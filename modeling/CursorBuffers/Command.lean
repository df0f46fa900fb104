import CursorBuffers.Store.Transfer
import CursorBuffers.Store.View
import CursorBuffers.Store.Wrap

/-!
All that can be done with a store, as data, and the runs of it. A run that meets a failure goes on
from the store that the failure left.
-/

namespace CursorBuffers

/-- An operation on one buffer. -/
inductive BufferCommand
  | getScalar (kind : ScalarKind) (order : ByteOrder) (index : Nat)
  | setScalar (order : ByteOrder) (index : Nat) (value : Scalar)
  | readScalar (kind : ScalarKind) (order : ByteOrder)
  | writeScalar (order : ByteOrder) (value : Scalar)
  | getBytes (index length : Nat)
  | setBytes (index : Nat) (data : Bytes)
  | readBytes (length : Nat)
  | writeBytes (data : Bytes)
  | skipBytes (length : Nat)
  | toBytes
  | hexDump (codec : Hex.Codec)
  | setReaderIndex (index : Nat)
  | setWriterIndex (index : Nat)
  | setIndex (reader writer : Nat)
  | clear
  | markReader
  | markWriter
  | resetReader
  | resetWriter
  | ensureWritable (length : Nat)
  | setCapacity (capacity : Nat)
  | copy
  | copyRange (index length : Nat)
  | slice
  | sliceRange (index length : Nat)
  | duplicate

/-- An operation between a buffer and another one. -/
inductive TransferCommand
  | getBytesTo (index : Nat)
  | getBytesAt (index otherIndex : Nat)
  | setBytesFrom (index : Nat)
  | setBytesAt (index otherIndex : Nat)
  | readBytesTo
  | writeBytesFrom

inductive WrapCommand
  | block (content : Bytes) (config : MemoryConfig)
  | array (content : Bytes) (config : MemoryConfig)
  | bytes (allocator : Allocator) (content : Bytes)
  | hex (codec : Hex.Codec) (allocator : Allocator) (text : String)
  | chunks (content : List Bytes)

inductive Command
  | openRegistry
  | openPool (config : MemoryConfig) (settings : PoolConfig) (registry : RegistryId)
  | closePool (pool : PoolId)
  | allocate (allocator : Allocator) (request : Allocation)
  | wrap (source : WrapCommand) (checking : Bool)
  | onBuffer (buffer : BufferId) (command : BufferCommand)
  | transfer (buffer other : BufferId) (command : TransferCommand) (length : Nat)
  | release (buffer : BufferId)
  | drop (buffer : BufferId)

inductive Answer
  | done
  | scalar (value : Scalar)
  | bytes (value : Bytes)
  | text (value : String)
  | buffer (id : BufferId)
  | pool (id : PoolId)
  | registry (id : RegistryId)
  deriving DecidableEq

def BufferCommand.perform (id : BufferId) : BufferCommand → Action Answer
  | .getScalar kind order index => return .scalar (← Action.getScalar id kind order index)
  | .setScalar order index value => do
      Action.setScalar id order index value
      return .done
  | .readScalar kind order => return .scalar (← Action.readScalar id kind order)
  | .writeScalar order value => do
      Action.writeScalar id order value
      return .done
  | .getBytes index length => return .bytes (← Action.getBytes id index length)
  | .setBytes index data => do
      Action.setBytes id index data
      return .done
  | .readBytes length => return .bytes (← Action.readBytes id length)
  | .writeBytes data => do
      Action.writeBytes id data
      return .done
  | .skipBytes length => do
      Action.skipBytes id length
      return .done
  | .toBytes => return .bytes (← Action.toBytes id)
  | .hexDump codec => return .text (← Action.hexDump id codec)
  | .setReaderIndex index => do
      Action.revise id (·.setReaderIndex index)
      return .done
  | .setWriterIndex index => do
      Action.revise id (·.setWriterIndex index)
      return .done
  | .setIndex reader writer => do
      Action.revise id (·.setIndex reader writer)
      return .done
  | .clear => do
      Action.revise id fun buffer => .ok buffer.clear
      return .done
  | .markReader => do
      Action.revise id fun buffer => .ok buffer.markReader
      return .done
  | .markWriter => do
      Action.revise id fun buffer => .ok buffer.markWriter
      return .done
  | .resetReader => do
      Action.revise id (·.resetReader)
      return .done
  | .resetWriter => do
      Action.revise id (·.resetWriter)
      return .done
  | .ensureWritable length => do
      Action.ensureWritable id length
      return .done
  | .setCapacity capacity => do
      Action.setCapacity id capacity
      return .done
  | .copy => return .buffer (← Action.copy id)
  | .copyRange index length => return .buffer (← Action.copyRange id index length)
  | .slice => return .buffer (← Action.slice id)
  | .sliceRange index length => return .buffer (← Action.sliceRange id index length)
  | .duplicate => return .buffer (← Action.duplicate id)

def TransferCommand.perform (id other : BufferId) (length : Nat) : TransferCommand → Action Unit
  | .getBytesTo index => Action.getBytesTo id index other length
  | .getBytesAt index otherIndex => Action.getBytesAt id index other otherIndex length
  | .setBytesFrom index => Action.setBytesFrom id index other length
  | .setBytesAt index otherIndex => Action.setBytesAt id index other otherIndex length
  | .readBytesTo => Action.readBytesTo id other length
  | .writeBytesFrom => Action.writeBytesFrom id other length

def WrapCommand.perform (checking : Bool) : WrapCommand → Action BufferId
  | .block content config => Action.wrapBlock content config checking
  | .array content config => Action.wrapArray content config checking
  | .bytes allocator content => Action.wrapBytes allocator content checking
  | .hex codec allocator text => Action.wrapHex codec allocator text checking
  | .chunks content => Action.wrapChunks content checking

def Command.perform : Command → Action Answer
  | .openRegistry => return .registry (← Action.openRegistry)
  | .openPool config settings registry => return .pool (← Action.openPool config settings registry)
  | .closePool pool => do
      Action.closePool pool
      return .done
  | .allocate allocator request => return .buffer (← Action.allocate allocator request)
  | .wrap source checking => return .buffer (← source.perform checking)
  | .onBuffer buffer command => command.perform buffer
  | .transfer buffer other command length => do
      command.perform buffer other length
      return .done
  | .release buffer => do
      let _ ← Action.buffer buffer
      modify (·.release buffer)
      return .done
  | .drop buffer => do
      let _ ← Action.buffer buffer
      modify (·.drop buffer)
      return .done

namespace Store

/-- Performs a command. -/
def run (store : Store) (command : Command) : Except Failure Answer × Store :=
  command.perform.runOn store

/-- The store after some commands, whatever each of them answered. -/
def after (store : Store) (commands : List Command) : Store :=
  commands.foldl (fun store command => (store.run command).2) store

/-- The stores that commands lead to. -/
def Reachable (store : Store) : Prop := ∃ commands, store = initial.after commands

end Store

end CursorBuffers
