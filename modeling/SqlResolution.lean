import SqlResolution.Instance.Write
import SqlResolution.Main
import SqlResolution.Value.Compare
import SqlResolution.Proofs.Address
import SqlResolution.Proofs.Text.Utf8
import SqlResolution.Proofs.Frame
import SqlResolution.Proofs.Record.Written
import SqlResolution.Proofs.Instance.Written
import SqlResolution.Proofs.Response.RoundTrip
import SqlResolution.Proofs.Response.Canonical
import SqlResolution.Proofs.Browse.Iterating
import SqlResolution.Proofs.Browse.Ownership
import SqlResolution.Proofs.Browse.Session
import SqlResolution.Proofs.Browse.States
import SqlResolution.Proofs.Browse.Survival
import SqlResolution.Proofs.Socket.End
import SqlResolution.Proofs.Lookup
import SqlResolution.Proofs.Collection
import SqlResolution.Proofs.Timeline.Flow
import SqlResolution.Proofs.Browse.Streaming
import SqlResolution.Proofs.Browse.Once
import SqlResolution.Proofs.Browse.Flattening
import SqlResolution.Proofs.Request
import SqlResolution.Proofs.Client
import SqlResolution.Proofs.Client.Named
import SqlResolution.Proofs.Exchange.Broadcast
import SqlResolution.Proofs.LocalNetworks.Ranking
import SqlResolution.Proofs.Collection.Failing
import SqlResolution.Proofs.Socket.Program
import SqlResolution.Proofs.Collection.Bounded
import SqlResolution.Proofs.Hanging
import SqlResolution.Proofs.Timeline.InStep
import SqlResolution.Proofs.Collection.InStep
import SqlResolution.Proofs.Browse.InStep
import SqlResolution.Proofs.Lookup.InStep
import SqlResolution.Proofs.Refusals
import SqlResolution.Proofs.Record.Firsts
import SqlResolution.Proofs.Request.Codec
import SqlResolution.Proofs.Response.AdminPort
import SqlResolution.Proofs.Response.Firsts
import SqlResolution.Proofs.Record.Place
import SqlResolution.Proofs.Response.Endpoint
import SqlResolution.Proofs.CommandLine.Browsing
