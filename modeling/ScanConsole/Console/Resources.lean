import ScanConsole.Backend.Client
import ScanConsole.Execution.World

/-!
# The section of resources

The operations of the section. Whatever changes the resources at the backend is
followed by fetching the whole list; the list shown is never patched. A change
has succeeded only if the reply says so in exactly the expected words.
-/

namespace ScanConsole

namespace ResourceSection

def saved : String := "Resource saved successfully"

def deleted : String := "Resource deleted successfully"

def fetchFailed : String := "Error fetching resources. Please try again later."

/-- An enrollment was answered with no words. -/
def unexpected : String := "An unexpected error occurred."

def saveFailed : String := "An error occurred while saving the resource."

/-- A deletion was answered with no words. -/
def deleteRefused : String := "Failed to delete resource."

def deleteFailed : String := "An error occurred while deleting the resource."

/-- What the operator is told of a reply. -/
def judge (reply : Except Failure MessageReply) (success unexpected failed : String) : Notice :=
  match reply with
  | .ok r =>
    if r.message == some success then .success success
    else
      match r.message with
      | some m => .error (if m == "" then unexpected else m)
      | none => .error unexpected
  | .error f => .error (f.userMessage failed)

end ResourceSection

namespace World

def viaClient {α : Type} (f : Client → α × Client) (w : World Client) : α × World Client :=
  let (a, c) := f w.link
  (a, { w with link := c })

def listResources (w : World Client) : Except Failure (List Resource) × World Client :=
  let w := w.dispatch .resourcesLoading
  let (reply, w) := w.viaClient Client.listResources
  match reply with
  | .ok entries =>
    let items := Resource.ofEntries entries
    (.ok items, w.dispatch (.resourcesLoaded items))
  | .error f => (.error f, w.dispatch (.resourcesFailed ResourceSection.fetchFailed))

/-- A notice shown, and after a success the list fetched anew. -/
def settleResources (notice : Notice) (w : World Client) : World Client :=
  let w := w.dispatch (.resourceNotice notice)
  match notice with
  | .success _ => w.listResources.2
  | .error _ => w

/-- A machine enrolled; after a success the form is closed. -/
def enroll (e : Enrollment) (w : World Client) : Notice × World Client :=
  let (reply, w) := w.viaClient (Client.saveResource e)
  let notice := ResourceSection.judge reply ResourceSection.saved ResourceSection.unexpected
    ResourceSection.saveFailed
  let w := w.settleResources notice
  match notice with
  | .success _ => (notice, w.dispatch .enrollmentClosed)
  | .error _ => (notice, w)

def deleteResource (address : String) (w : World Client) : Notice × World Client :=
  let (reply, w) := w.viaClient (Client.deleteResource address)
  let notice := ResourceSection.judge reply ResourceSection.deleted ResourceSection.deleteRefused
    ResourceSection.deleteFailed
  (notice, w.settleResources notice)

def filterResources (query : String) (w : World Client) : List Resource × World Client :=
  let w := w.dispatch (.resourceQueryChanged query)
  (w.state.resources.visible, w)

end World

end ScanConsole
