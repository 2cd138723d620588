import InputMap.Main
import InputMap.Pad.Faulty
import InputMap.Proofs.ActionSet.Declarations
import InputMap.Proofs.Demo.Direction
import InputMap.Proofs.Host.Foreign
import InputMap.Proofs.Host.NonInterference
import InputMap.Proofs.Host.Overwriting
import InputMap.Proofs.Host.Quiescence
import InputMap.Proofs.Host.Schedule
import InputMap.Proofs.Host.Summaries
import InputMap.Proofs.Host.TableChange
import InputMap.Proofs.Host.Transfer
import InputMap.Proofs.ListenerList.History
import InputMap.Proofs.Poll.Cleaning
import InputMap.Proofs.Poll.Reads
import InputMap.Proofs.Profile.Export
import InputMap.Proofs.Profile.Resolution
import InputMap.Proofs.Profile.RoundTrip
import InputMap.Proofs.Value.Saturation
