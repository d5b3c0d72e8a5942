/-
**Packets and link-layer addresses.**

A `ChunkPacket` is assembled layer by layer; a layer that nobody has set is empty. A `CohesivePacket`
is one byte string with boundaries between its layers.
-/

import Vanet.Library.Reader

namespace Vanet.Net

open Vanet.Library

/-- `ByteBuffer`. -/
abbrev ByteBuffer := List UInt8

abbrev MacAddress := Octets 6

inductive OsiLayer
  | physical
  | link
  | network
  | transport
  | session
  | presentation
  | application
  deriving DecidableEq

/-- `osi_layers`, from the lowest to the highest. -/
def osiLayers : List OsiLayer :=
  [.physical, .link, .network, .transport, .session, .presentation, .application]

/-- The place of a layer, from 1. -/
def OsiLayer.index : OsiLayer → ℕ
  | physical => 1
  | link => 2
  | network => 3
  | transport => 4
  | session => 5
  | presentation => 6
  | application => 7

/-- `osi_layer_range`. -/
def osiLayerRange (first last : OsiLayer) : List OsiLayer :=
  osiLayers.filter fun layer => first.index ≤ layer.index ∧ layer.index ≤ last.index

structure ChunkPacket where
  layer : OsiLayer → ByteBuffer

/-- The packet without any layer. -/
def ChunkPacket.empty : ChunkPacket := ⟨fun _ => []⟩

/-- The size of all layers together. -/
def ChunkPacket.size (packet : ChunkPacket) : ℕ :=
  (osiLayers.map fun layer => (packet.layer layer).length).sum

/-- `size` of a range of layers. -/
def ChunkPacket.sizeRange (packet : ChunkPacket) (first last : OsiLayer) : ℕ :=
  ((osiLayerRange first last).map fun layer => (packet.layer layer).length).sum

/-- The layers between the boundaries. -/
structure CohesivePacket where
  layer : OsiLayer → ByteBuffer

namespace CohesivePacket

/-- `size` of a range of layers. -/
def sizeRange (packet : CohesivePacket) (first last : OsiLayer) : ℕ :=
  (ChunkPacket.mk packet.layer).sizeRange first last

/-- `set_boundary` between the network and the transport layer. The network layer is asserted to have
the bytes it keeps. -/
def setBoundary (packet : CohesivePacket) (bytes : ℕ) : Option CohesivePacket :=
  if bytes ≤ (packet.layer .network).length then
    some { layer := fun layer =>
      match layer with
      | .network => (packet.layer .network).take bytes
      | .transport => (packet.layer .network).drop bytes ++ packet.layer .transport
      | other => packet.layer other }
  else none

/-- The bytes from the transport layer to below the given layer. -/
def below (packet : CohesivePacket) (layer : OsiLayer) : ℕ :=
  (((osiLayerRange .transport .application).filter fun lower => lower.index < layer.index).map
    fun lower => (packet.layer lower).length).sum

/-- `trim` from the transport layer on: no more than these bytes stay. -/
def trim (packet : CohesivePacket) (bytes : ℕ) : CohesivePacket where
  layer := fun layer =>
    if layer.index < OsiLayer.transport.index then packet.layer layer
    else (packet.layer layer).take (bytes - packet.below layer)

end CohesivePacket

end Vanet.Net
