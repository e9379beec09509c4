import SqlResolution.Proofs.Frame
import SqlResolution.Proofs.Instance.Written
import SqlResolution.Proofs.Text.Utf8
import SqlResolution.Response

/-!
# What a host says about its instances is understood

A host writes its instances as text, encodes the text and frames the bytes. Whoever
reads that datagram, as one that came from the address of the host, gets the same
instances in the same order, whatever is missing or empty in them.

The four layers are undone in the reverse order, each by the round trip of its own
module: the frame, the encoding, the records, the instances.
-/

namespace SqlResolution.Response

open SqlResolution.Text

theorem readText_writeAll {source : String} {instances : List Instance}
    (h : ∀ x ∈ instances, x.IsWritable ∧ Address.read? source = some x.address) :
    readText source (Instance.writeAll instances) = ([], .ok instances) := by
  rw [readText, Instance.split_writeAll fun x hx => (h x hx).1]
  dsimp only
  rw [Instance.ofRecords_toRecord h]
  rfl

/-- Instances of one host that can be written, and whose text has room in a frame, are read back
as they are: all of them, in order, and nothing is noticed on the way. -/
theorem read_encode_writeAll {address : Address} {instances : List Instance}
    (h : ∀ x ∈ instances, x.address = address ∧ x.IsWritable)
    (hsize : (Utf8.encode (Instance.writeAll instances)).length ≤ 65535) :
    ∃ data, Frame.encode (Utf8.encode (Instance.writeAll instances)) = .ok data ∧
      read address.text data = ([], .ok instances) := by
  have hframe := Frame.encode_of_length_le hsize
  refine ⟨_, hframe, ?_⟩
  rw [read, Frame.decode_of_encode hframe]
  dsimp only
  rw [Utf8.decode_encode]
  exact readText_writeAll fun x hx =>
    ⟨(h x hx).2, (h x hx).1.symm ▸ Address.read?_text address⟩

def zonedAddress : Address :=
  .v6 ⟨[0xfe80, 0, 0, 0, 0, 0, 0, 1], rfl, some ⟨['e', 't', 'h', '0'], by decide, by decide⟩⟩

/-- An instance with several ways to reach it, some of which have empty parts. -/
def reachableInstance : Instance where
  address := zonedAddress
  serverName := ""
  name := "Größe"
  isClustered := true
  version := "15.0"
  tcp := some 0
  pipe := some ""
  via := some ⟨"", [⟨"", ""⟩, ⟨"nic", "1:2"⟩]⟩
  rpc := none
  spx := some "InstanceName"
  appleTalk := none
  vines := some ⟨"", "", "org"⟩

def unreachableInstance : Instance where
  address := zonedAddress
  serverName := "tcp"
  name := "A"
  isClustered := false
  version := ""
  tcp := none
  pipe := none
  via := none
  rpc := none
  spx := none
  appleTalk := none
  vines := none

/-- Empty parts, keys as values, and the same instance twice. -/
theorem read_encode_writeAll_repeated :
    ∃ data,
      Frame.encode (Utf8.encode (Instance.writeAll
        [unreachableInstance, reachableInstance, unreachableInstance])) = .ok data ∧
      read zonedAddress.text data =
        ([], .ok [unreachableInstance, reachableInstance, unreachableInstance]) := by
  have hfirst : unreachableInstance.IsWritable := by
    constructor <;> simp [unreachableInstance, Instance.Plain]
  have hsecond : reachableInstance.IsWritable := by
    constructor <;> simp [reachableInstance, Instance.Plain, Via.IsWritable]
  refine read_encode_writeAll ?_ (by decide +kernel)
  intro x hx
  simp only [List.mem_cons, List.not_mem_nil, or_false] at hx
  rcases hx with rfl | rfl | rfl
  · exact ⟨rfl, hfirst⟩
  · exact ⟨rfl, hsecond⟩
  · exact ⟨rfl, hfirst⟩

end SqlResolution.Response
