import DashKit.Codec.Basic
import DashKit.Sidebar.Basic

/-!
# Sidebar States in JSON

The JSON forms of what a sidebar shows: its look by name, and its flags as a
record that needs all three.

## Main definitions

* Codecs of `Appearance` and `Snapshot`.
-/

namespace DashKit

open Json

instance : Codec Appearance := .words [.expanded, .collapsed] Appearance.word

/-- The flags read so far. -/
structure SnapshotDraft where
  isOpen : Option Bool := none
  drawerOpen : Option Bool := none
  isMobile : Option Bool := none

/-- The flags of a draft that has all of them. -/
def SnapshotDraft.finish (draft : SnapshotDraft) : Except String Snapshot := do
  let isOpen ← required "open" draft.isOpen
  let drawerOpen ← required "open_mobile" draft.drawerOpen
  let isMobile ← required "is_mobile" draft.isMobile
  return { isOpen, drawerOpen, isMobile }

/-- A record of three flags, none of which may be missing. -/
def snapshotShape : Shape SnapshotDraft Snapshot where
  name := "SidebarState"
  fields depth :=
    [.of depth "open" fun v draft => { draft with isOpen := some v },
     .of depth "open_mobile" fun v draft => { draft with drawerOpen := some v },
     .of depth "is_mobile" fun v draft => { draft with isMobile := some v }]
  blank := {}
  finish := SnapshotDraft.finish

instance : Codec Snapshot where
  reader depth := .shape depth snapshotShape
  value snapshot :=
    .record
      [("open", Codec.value snapshot.isOpen), ("open_mobile", Codec.value snapshot.drawerOpen),
       ("is_mobile", Codec.value snapshot.isMobile)]

end DashKit
