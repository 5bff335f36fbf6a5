import MipTexture.Imaging.Plain

/-!
# The laws of a plain imaging library

The plain library reads pixels where they are stored, needs the blocks that a raster touches, and saves
one file.

Main statements: `readsBlocks_plain`, `readsRaw_plain` and `savesFile_plain`.
-/

namespace MipTexture

namespace Raster

theorem side_natCast {n : Nat} (hn : n < 2 ^ 31) : side n = .ok n := by
  rw [side, if_neg (by omega), if_neg (by omega), Int.toNat_natCast]

theorem sides_of_isSide {columns rows : Nat} (hcolumns : IsSide columns) (hrows : IsSide rows) :
    sides columns rows = .ok (columns, rows) := by
  have hwidth : columns < 2 ^ 31 := Nat.lt_trans hcolumns.2 (by decide)
  have hheight : rows < 2 ^ 31 := Nat.lt_trans hrows.2 (by decide)
  rw [sides, if_neg (by omega), side_natCast hwidth, side_natCast hheight]
  rfl

theorem ofBytes_eq_ite (make : Nat → Nat → Bytes → Raster) (needed : Nat → Nat → Nat)
    {columns rows : Nat} (hcolumns : IsSide columns) (hrows : IsSide rows) (data : Bytes) :
    ofBytes make needed columns rows data =
      if data.length < needed columns rows then .error (.refused (.other "not enough image data"))
      else .ok (make columns rows data) := by
  rw [ofBytes, sides_of_isSide hcolumns hrows]
  rfl

theorem storedAt_rawPixel {data : Bytes} {i : Nat} (hend : 4 * i + 3 < data.length) :
    (rawPixel data.toArray i).StoredAt data (4 * i) := by
  have hbyte (k : Nat) (hk : k < data.length) :
      data[k]? = some (data.toArray[k]?.getD 0) := by
    rw [List.getElem?_toArray, List.getElem?_eq_getElem hk]
    rfl
  exact ⟨hbyte _ (by omega), hbyte _ (by omega), hbyte _ (by omega), hbyte _ hend⟩

theorem pixel?_ofRaw {width height x y : Nat} (data : Bytes) (hx : x < width) (hy : y < height) :
    (ofRaw width height data).pixel? x y = some (rawPixel data.toArray (y * width + x)) := by
  rw [pixel?, if_pos ⟨hx, hy⟩, ofRaw, List.getElem?_map, List.getElem?_range (index_lt hx hy)]
  rfl

end Raster

namespace Imaging

theorem read_plain_blocks (kind : BlockKind) (columns rows : Int) (data : Bytes) :
    plain.read (.blocks kind.variant) columns rows data =
      Raster.ofBytes (Raster.ofBlocks kind) kind.needed columns rows data := by
  cases kind <;> rfl

theorem read_plain_raw (columns rows : Int) (data : Bytes) :
    plain.read (.raw .bgra) columns rows data =
      Raster.ofBytes Raster.ofRaw (fun columns rows => columns * rows * 4) columns rows data :=
  rfl

theorem readsBlocks_plain : plain.ReadsBlocks where
  enough kind columns rows data hcolumns hrows henough := by
    rw [read_plain_blocks, Raster.ofBytes_eq_ite _ _ hcolumns hrows]
    exact ⟨_, if_neg (Nat.not_lt.mpr henough), rfl, rfl⟩
  missing kind columns rows data hcolumns hrows hshort := by
    rw [read_plain_blocks, Raster.ofBytes_eq_ite _ _ hcolumns hrows]
    exact if_pos hshort

theorem readsRaw_plain : plain.ReadsRaw where
  pixels {columns rows data} hcolumns hrows hlength := by
    have hread : plain.read (.raw .bgra) columns rows data =
        .ok (Raster.ofRaw columns rows data) := by
      rw [read_plain_raw, Raster.ofBytes_eq_ite _ _ hcolumns hrows]
      exact if_neg (Nat.not_lt.mpr (Nat.le_of_eq hlength.symm))
    refine ⟨_, hread, rfl, rfl, ?_⟩
    intro x hx y hy
    have hindex := Raster.index_lt hx hy
    exact ⟨_, Raster.pixel?_ofRaw data hx hy, Raster.storedAt_rawPixel (by omega)⟩

theorem savesFile_plain : plain.SavesFile where
  saved {t t' path x} h := by
    change saveBitmap t path x = _ at h
    unfold saveBitmap at h
    split at h
    · split at h
      · rename_i found hfound
        cases h
        exact ⟨_, hfound⟩
      · cases h
    · cases h
  failed {t t' path x e} h := by
    change saveBitmap t path x = _ at h
    unfold saveBitmap at h
    split at h
    · split at h
      · cases h
      · cases h
        exact .inl rfl
    · cases h
      exact .inl rfl

end Imaging

end MipTexture
