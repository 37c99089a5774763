import PageSession.Notification.Outgoing
import PageSession.Session.Storage

/-!
# The name of a session

The name is made once and kept in a storage.  Failures of the storage never
surface: the name is then good for this start of the program only.
-/

namespace PageSession

namespace SessionId

/-- The key under which the name is stored. -/
def storageKey : String := "org.jgrapes.portal.sessionId"

/-- The bytes of a random identifier, with the marks of version 4 set. -/
def markVersion (bytes : List UInt8) : List UInt8 :=
  (bytes.modify 6 fun byte => byte % 16 + 0x40).modify 8 fun byte => byte % 64 + 0x80

/-- A fresh name made of sixteen random bytes, in groups of 4, 2, 2, 2 and 6. -/
def ofRandom (bytes : List UInt8) : String :=
  let marked := markVersion bytes
  let group := fun start count =>
    String.ofList (((marked.drop start).take count).flatMap Text.hexadecimalByte)
  "-".intercalate [group 0 4, group 4 2, group 6 2, group 8 2, group 10 6]

/-- The outcome of asking for the name of the session. -/
structure Obtained where
  session : SessionId
  storage : Storage
  /-- Whether the fresh name was used. -/
  generated : Bool
  incidents : List StorageIncident

/-- Store a fresh name. -/
def create (storage : Storage) (time fresh : String) : Obtained :=
  match storage.set time storageKey fresh with
  | .ok (storage, incidents) => { session := ⟨fresh⟩, storage, generated := true, incidents }
  | .error error =>
      { session := ⟨fresh⟩, storage, generated := true, incidents := [.unstored fresh error] }

/-- The stored name, unless it is empty; else a fresh one, which is stored.  If
the storage does not answer, the fresh one is used and not stored. -/
def obtain (storage : Storage) (time fresh : String) : Obtained :=
  match storage.get storageKey with
  | .error error =>
      { session := ⟨fresh⟩, storage, generated := true, incidents := [.ephemeral error] }
  | .ok none => create storage time fresh
  | .ok (some stored) =>
      if stored = "" then create storage time fresh
      else { session := ⟨stored⟩, storage, generated := false, incidents := [.reusing stored] }

end SessionId

end PageSession
