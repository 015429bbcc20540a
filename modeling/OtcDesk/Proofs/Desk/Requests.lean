import OtcDesk.Proofs.Desk.Traffic
import OtcDesk.Proofs.Login.Departure
import OtcDesk.Proofs.Login.Requests
import OtcDesk.Proofs.Tracker.Fetches

namespace OtcDesk

namespace DeskTraffic

variable {traffic : DeskTraffic}

end DeskTraffic

end OtcDesk
