import Std.Data.HashMap
import MutationTesting.Shell.Utility.Blocks
import MutationTesting.Shell.Utility.Columns
import MutationTesting.Shell.Utility.Word
/-! Programs that put words and lines into an order: one that has each word before those that it
comes before, and one that has no meaning. -/
namespace MutationTesting.Shell.Utility

namespace Precedence

structure Item where
  /-- How many words that are left come before it. -/
  count : Nat := 0
  /-- The words behind it, the latest one first. -/
  later : List String := []
  isDone : Bool := false
  /-- The word before which it has been found on the way to a circle. -/
  link? : Option String := none
  deriving Inhabited

/-- The words, in the order of their characters, with what is known of them. -/
structure Graph where
  names : List String
  items : Std.HashMap String Item

namespace Graph

def item (graph : Graph) (name : String) : Item :=
  graph.items.getD name {}

def set (graph : Graph) (name : String) (item : Item) : Graph :=
  { graph with items := graph.items.insert name item }

/-- The graph of words that come one before the other, two by two. -/
def ofPairs (pairs : List (String × String)) : Graph :=
  let items := pairs.foldl (fun (items : Std.HashMap String Item) (first, second) =>
    let items := items.insert first (items.getD first {})
    let before := items.getD second {}
    if first = second then items
    else
      let items := items.insert second { before with count := before.count + 1 }
      let item := items.getD first {}
      items.insert first { item with later := second :: item.later }) {}
  { names := items.keys.mergeSort fun a b => a ≤ b, items }

def free (graph : Graph) : List String :=
  graph.names.filter fun name =>
    let item := graph.item name
    item.count = 0 && !item.isDone

/-- Takes the words of a queue away, and those that become free by that. -/
def take : (fuel : Nat) → Graph → (queue found : List String) → Graph × List String
  | 0, graph, _, found => (graph, found)
  | _, graph, [], found => (graph, found)
  | fuel + 1, graph, name :: queue, found =>
    let item := graph.item name
    let graph := graph.set name { item with isDone := true }
    let (graph, freed) := item.later.foldl (fun (graph, freed) name =>
      let item := graph.item name
      let graph := graph.set name { item with count := item.count - 1 }
      (graph, if item.count = 1 then freed ++ [name] else freed)) (graph, ([] : List String))
    take fuel graph (queue ++ freed) (name :: found)

/-- Goes through the words for a circle, with the last word on the way to it. Yields the words of
the circle as soon as one is found, of which the last one is taken out. -/
def circle : (names : List String) → (last? : Option String) → Graph →
    Graph × Option String × Option (List String)
  | [], last?, graph => (graph, last?, none)
  | name :: names, last?, graph =>
    let item := graph.item name
    if item.count = 0 then circle names last? graph
    else
      match last? with
      | none => circle names (some name) graph
      | some last =>
        if !item.later.contains last then circle names last? graph
        else if item.link?.isSome then
          let words := chain graph name (graph.names.length + 1) last
          let graph := graph.set name { item with later := item.later.erase last }
          let behind := graph.item last
          let graph := graph.set last { behind with count := behind.count - 1 }
          let graph := { graph with
            items := graph.items.map fun _ item => { item with link? := none } }
          (graph, none, some words)
        else circle names (some name) (graph.set name { item with link? := some last })
where
  /-- The words from one to another one. -/
  chain (graph : Graph) (stop : String) : (fuel : Nat) → String → List String
    | 0, _ => []
    | fuel + 1, name =>
      if name = stop then [name]
      else match (graph.item name).link? with
        | some next => name :: chain graph stop fuel next
        | none => [name]

/-- Goes through the words until a circle has been found. -/
def nextCircle : (fuel : Nat) → (last? : Option String) → Graph → Graph × List String
  | 0, _, graph => (graph, [])
  | fuel + 1, last?, graph =>
    match circle graph.names last? graph with
    | (graph, _, some words) => (graph, words)
    | (graph, last?, none) => nextCircle fuel last? graph

/-- The words in their order, the last one first, and the circles among them. -/
def order : (fuel : Nat) → Graph → (found : List String) → List String × List (List String)
  | 0, _, found => (found, [])
  | fuel + 1, graph, found =>
    let size := graph.names.length
    let (graph, found) := graph.take (size + 1) graph.free found
    if found.length = size then (found, [])
    else
      let (graph, words) := nextCircle (size + 2) none graph
      let (found, circles) := order fuel graph found
      (found, words :: circles)

end Graph

end Precedence

open Precedence in
/-- Puts words into an order in which each one comes before those that it is said to come before. -/
def tsort : Program := fun _ arguments => do
  let given ← Sh.takeAll 1 "" arguments
  if let extra :: _ := given.operands.drop 1 then Sh.failExtra 1 extra
  let path := given.operands.headD "-"
  match ← Sh.readInput .all path with
  | .error reason =>
    let cause := if reason = "Is a directory" then "read error: " else ""
    Sh.fail 1 (shownName path ++ ": " ++ cause ++ reason)
  | .ok bytes =>
    let isBlank (c : Char) : Bool := c = ' ' || c = '\t' || c = '\n'
    let words := ((textOfBytes bytes).splitToList isBlank).filter (· ≠ "")
    if words.length % 2 = 1 then
      Sh.fail 1 (shownName path ++ ": input contains an odd number of tokens")
    let rec pairs : List String → List (String × String)
      | first :: second :: rest => (first, second) :: pairs rest
      | _ => []
    let graph := Graph.ofPairs (pairs words)
    let (found, circles) := graph.order (words.length + 1) []
    let name ← Sh.programName
    for words in circles do
      Sh.tryWrite 2 (name ++ ": " ++ shownName path ++ ": input contains a loop:\n")
      for word in words do Sh.tryWrite 2 (name ++ ": " ++ word ++ "\n")
    Sh.say (Sh.joinLines found.reverse)
    return if circles.isEmpty then 0 else 1

/-- Lines in another order, which hangs on a number: each one in turn is taken from what is left. -/
def mixed : (fuel seed : Nat) → List α → List α
  | 0, _, items => items
  | fuel + 1, seed, items =>
    let next := (seed * 1103515245 + 12345) % Nat.pow 2 31
    match items.drop (next / 65536 % items.length) with
    | [] => items
    | item :: rest =>
      item :: mixed fuel next (items.take (next / 65536 % items.length) ++ rest)

def shuf : Program := fun _ arguments => do
  let given ← Sh.takeAll 1 ("e,echo i:,input-range n:,head-count o:,output random-source: " ++
    "r,repeat z,zero-terminated") arguments
  let mark := if given.has "z" then '\x00' else '\n'
  let limits ← (given.all "n").mapM fun text =>
    match count? text with
    | some n => pure n
    | none => Sh.fail 1 ("invalid line count: " ++ quotedName text)
  let items ← match given.last? "i" with
    | some range =>
      if let extra :: _ := given.operands then Sh.failExtra 1 extra
      match piecesAt '-' range with
      | [low, high] =>
        match count? low, count? high with
        | some low, some high =>
          if high + 1 < low then Sh.fail 1 ("invalid input range: " ++ quotedName range)
          pure ((List.range' low (high + 1 - low)).map toString)
        | _, _ => Sh.fail 1 ("invalid input range: " ++ quotedName range)
      | _ => Sh.fail 1 ("invalid input range: " ++ quotedName range)
    | none =>
      if given.has "e" then pure given.operands
      else
        if let extra :: _ := given.operands.drop 1 then Sh.failExtra 1 extra
        let path := given.operands.headD "-"
        match ← Sh.readInput .sample path with
        | .ok bytes => pure (linesEndedBy mark (textOfBytes bytes))
        | .error reason =>
          Sh.fail 1 (if reason = "Is a directory" then "read error: " ++ reason
            else shownName path ++ ": " ++ reason)
  let seed := (← get).clock / 1000 + items.length
  let limit? := limits.foldl (fun limit? n => some (min n (limit?.getD n))) none
  let found ←
    if given.has "r" then
      if items.isEmpty && limit? ≠ some 0 then Sh.fail 1 "no lines to repeat"
      let count := limit?.getD 100000
      let picks := mixed count seed (List.range count)
      pure ((picks.take count).map fun n => items.getD (n % max items.length 1) "")
    else
      let found := mixed items.length seed items
      pure (match limit? with
        | some n => found.take n
        | none => found)
  let text := String.join (found.map (·.push mark))
  match given.last? "o" with
  | none => Sh.say text
  | some path =>
    match ← Sh.openFile .write path with
    | .ok opened =>
      let _ ← Sh.writeTo (← Sh.newOpened opened) opened (bytesOfText text)
    | .error reason => Sh.fail 1 (shownName path ++ ": " ++ reason)
  return 0

end MutationTesting.Shell.Utility
