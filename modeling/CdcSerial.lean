import CdcSerial.Double.Reading
import CdcSerial.Main
import CdcSerial.Proofs.Connection.Completion
import CdcSerial.Proofs.Connection.Writing
import CdcSerial.Proofs.Inventory
import CdcSerial.Proofs.Connection.Ranges
import CdcSerial.Proofs.Connection.Polling
import CdcSerial.Proofs.Connection.Admission
import CdcSerial.Proofs.Connection.Lanes
import CdcSerial.Proofs.Connection.Conservation
import CdcSerial.Proofs.Connection.Graft
import CdcSerial.Proofs.Connection.Renewal
import CdcSerial.Proofs.Connection.Applied
import CdcSerial.Proofs.Spelling
import CdcSerial.Proofs.Connection.Signals
import CdcSerial.Proofs.Stream.Filling
import CdcSerial.Proofs.Line.Coding
import CdcSerial.Proofs.Line.Control
import CdcSerial.Proofs.Line.Members
import CdcSerial.Proofs.Line.Options
import CdcSerial.Proofs.Usb.Enumeration
import CdcSerial.Proofs.Connection.Opening
import CdcSerial.Proofs.Connection.Undoing
import CdcSerial.Proofs.Connection.Stopping
import CdcSerial.Proofs.Connection.Tickets
import CdcSerial.Proofs.Connection.Exits
import CdcSerial.Proofs.Connection.Scheduling
import CdcSerial.Proofs.Connection.Writers
import CdcSerial.Proofs.Connection.Outcomes
import CdcSerial.Proofs.Connection.Requesting
import CdcSerial.Proofs.Connection.Dispatch
import CdcSerial.Proofs.Stream.Sending
