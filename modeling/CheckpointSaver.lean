import CheckpointSaver.RoundTrip
import CheckpointSaver.Lineage
import CheckpointSaver.PendingWrites
import CheckpointSaver.FailedPut
import CheckpointSaver.Versions
import CheckpointSaver.PersistentDict
import CheckpointSaver.Reload
import CheckpointSaver.Session
import CheckpointSaver.Interleaving
