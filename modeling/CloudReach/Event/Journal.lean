import CloudReach.Event.Json
import CloudReach.Event.Sink

/-!
# Journals

A sink that appends a line to a file for each event. The file is opened for every event, and made
if it is not there. A step that fails ends the delivery with its error.
-/

namespace CloudReach

/-- What a world lets one do with its files; an opened file goes by a handle. -/
structure Files (σ η ε : Type) where
  openAppend : String → σ → Except ε η × σ
  writeAll : η → String → σ → Except ε Unit × σ
  flush : η → σ → Except ε Unit × σ

namespace Files

variable {σ η ε : Type}

def appendLine (files : Files σ η ε) (path line : String) (s : σ) : Except ε Unit × σ :=
  match files.openAppend path s with
  | (.error e, s) => (.error e, s)
  | (.ok file, s) =>
    match files.writeAll file line s with
    | (.error e, s) => (.error e, s)
    | (.ok (), s) => files.flush file s

def journal (files : Files σ η ε) (path : String) : Sink σ ε where
  ready s := (.ok (), s)
  call e s := files.appendLine path e.line s

end Files

end CloudReach
