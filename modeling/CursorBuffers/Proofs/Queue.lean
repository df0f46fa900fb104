import CursorBuffers.Command

namespace CursorBuffers

namespace BufferCommand

/-- The operations of a queue, and the questions about it. -/
def Queues : BufferCommand → Prop
  | .writeScalar _ _ => True
  | .writeBytes _ => True
  | .readScalar _ _ => True
  | .readBytes _ => True
  | .skipBytes _ => True
  | .ensureWritable _ => True
  | .toBytes => True
  | .hexDump _ => True
  | _ => False

/-- The operations that look at an index. -/
def Looks : BufferCommand → Prop
  | .getScalar _ _ _ => True
  | .getBytes _ _ => True
  | _ => False

/-- How many bytes an operation wants to take out. -/
def takes? : BufferCommand → Option Nat
  | .readScalar kind _ => some kind.width.bytes
  | .readBytes length => some length
  | .skipBytes length => some length
  | _ => none

end BufferCommand

structure ByteQueue where
  content : List UInt8
  /-- How many more bytes may come in; what is taken out makes no room. -/
  room : Nat

namespace ByteQueue

/-- Puts data in at the end. -/
def put (queue : ByteQueue) (data : List UInt8) : Option (Answer × ByteQueue) :=
  if data.length ≤ queue.room then
    some (.done, ⟨queue.content ++ data, queue.room - data.length⟩)
  else none

/-- Takes bytes out at the front, and answers what they tell. -/
def take (queue : ByteQueue) (length : Nat) (tell : List UInt8 → Answer) :
    Option (Answer × ByteQueue) :=
  if length ≤ queue.content.length then
    some (tell (queue.content.take length), { queue with content := queue.content.drop length })
  else none

/-- The answer to an operation and the queue after it, or nothing if the queue refuses: it never
does a part of what is asked. What is at an index is no question to a queue. -/
def serve (queue : ByteQueue) : BufferCommand → Option (Answer × ByteQueue)
  | .writeScalar order value => queue.put (order.encode value.toWord).toList
  | .writeBytes data => queue.put data.toList
  | .readScalar kind order => queue.take kind.width.bytes fun bytes =>
      .scalar (.ofWord kind (order.decode kind.width bytes.toArray))
  | .readBytes length => queue.take length fun bytes => .bytes bytes.toArray
  | .skipBytes length => queue.take length fun _ => .done
  | .ensureWritable length => if length ≤ queue.room then some (.done, queue) else none
  | .toBytes => some (.bytes queue.content.toArray, queue)
  | .hexDump codec => some (.text (codec.encode queue.content.toArray), queue)
  | _ => none

/-- The queue after an operation, which leaves it alone if it is refused. -/
def next (queue : ByteQueue) (command : BufferCommand) : ByteQueue :=
  ((queue.serve command).map Prod.snd).getD queue

def after (queue : ByteQueue) (commands : List BufferCommand) : ByteQueue :=
  commands.foldl next queue

/-- How many bytes an operation takes out. -/
def taken (queue : ByteQueue) (command : BufferCommand) : Nat :=
  match command.takes? with
  | some length => if length ≤ queue.content.length then length else 0
  | none => 0

/-- How many bytes some operations take out, one after the other. -/
def passed (queue : ByteQueue) : List BufferCommand → Nat
  | [] => 0
  | command :: rest => queue.taken command + (queue.next command).passed rest

variable {queue : ByteQueue} {command : BufferCommand} {commands : List BufferCommand}

theorem after_append {later : List BufferCommand} :
    queue.after (commands ++ later) = (queue.after commands).after later := by
  simp [after]

theorem content_put (queue : ByteQueue) (data : List UInt8) : ∃ newer,
    (((queue.put data).map Prod.snd).getD queue).content = queue.content ++ newer := by
  by_cases fits : data.length ≤ queue.room
  · exact ⟨data, by simp [put, fits]⟩
  · exact ⟨[], by simp [put, fits]⟩

theorem content_take (queue : ByteQueue) (length : Nat) (tell : List UInt8 → Answer) :
    (((queue.take length tell).map Prod.snd).getD queue).content =
      queue.content.drop (if length ≤ queue.content.length then length else 0) := by
  by_cases enough : length ≤ queue.content.length <;> simp [take, enough]

/-- An operation takes from the front and puts at the end. -/
theorem content_next (queue : ByteQueue) (command : BufferCommand) : ∃ newer,
    (queue.next command).content = queue.content.drop (queue.taken command) ++ newer := by
  cases command with
  | writeScalar order value => exact content_put queue _
  | writeBytes data => exact content_put queue _
  | ensureWritable length =>
      refine ⟨[], ?_⟩
      by_cases fits : length ≤ queue.room <;>
        simp [next, serve, taken, BufferCommand.takes?, fits]
  | _ => exact ⟨[], by simp [next, serve, taken, BufferCommand.takes?, content_take]⟩

/-- What was there comes out first, and in order. -/
theorem content_after (within : queue.passed commands ≤ queue.content.length) : ∃ newer,
    (queue.after commands).content = queue.content.drop (queue.passed commands) ++ newer := by
  induction commands generalizing queue with
  | nil => exact ⟨[], by simp [after, passed]⟩
  | cons command rest ih =>
      obtain ⟨newer, first⟩ := content_next queue command
      simp only [passed] at within ⊢
      have room : (queue.next command).passed rest ≤
          (queue.content.drop (queue.taken command)).length := by
        rw [List.length_drop]
        omega
      have inside : (queue.next command).passed rest ≤ (queue.next command).content.length := by
        rw [first, List.length_append]
        omega
      obtain ⟨newest, later⟩ := ih inside
      refine ⟨newer ++ newest, ?_⟩
      change ((queue.next command).after rest).content = _
      rw [later, first, List.drop_append_of_le_length room, List.drop_drop, List.append_assoc]

theorem serve_readScalar {order : ByteOrder} {value : Scalar} {newer : List UInt8}
    (front : queue.content = (order.encode value.toWord).toList ++ newer) :
    (queue.serve (.readScalar value.kind order)).map Prod.fst = some (.scalar value) := by
  have length : (order.encode value.toWord).toList.length = value.kind.width.bytes := by simp
  have enough : value.kind.width.bytes ≤ queue.content.length := by
    rw [front, List.length_append]
    omega
  have word : queue.content.take value.kind.width.bytes = (order.encode value.toWord).toList := by
    rw [front, ← length, List.take_left]
  simp [serve, take, enough, word, ByteOrder.decode_encode]

/-- A value that was put in comes out when what was before it is gone. -/
theorem serve_written {order : ByteOrder} {value : Scalar}
    (fits : value.kind.width.bytes ≤ queue.room)
    (reached : (queue.next (.writeScalar order value)).passed commands = queue.content.length) :
    (((queue.next (.writeScalar order value)).after commands).serve
      (.readScalar value.kind order)).map Prod.fst = some (.scalar value) := by
  have written : (queue.next (.writeScalar order value)).content =
      queue.content ++ (order.encode value.toWord).toList := by
    simp [next, serve, put, fits]
  have within : (queue.next (.writeScalar order value)).passed commands ≤
      (queue.next (.writeScalar order value)).content.length := by
    rw [reached, written, List.length_append]
    omega
  obtain ⟨newer, content⟩ := content_after within
  have front : ((queue.next (.writeScalar order value)).after commands).content =
      (order.encode value.toWord).toList ++ newer := by
    rw [content, reached, written, List.drop_left]
  exact serve_readScalar front

end ByteQueue

end CursorBuffers
